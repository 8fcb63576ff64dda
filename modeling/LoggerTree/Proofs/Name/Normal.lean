import LoggerTree.Name
import LoggerTree.Proofs.Text

/-! # Normal names

    Making a name from a text only ever takes characters away, or puts one for two. A text that
    is as long as its name is therefore that name already: it is **normal**.
-/

namespace LoggerTree.Name

theorem chars_ne_nil {n : Name} (h : n ≠ root) : n.chars ≠ [] := by
  intro hnil
  apply h
  rw [← isRoot_iff, isRoot, hnil]
  rfl

theorem length_ofChars_le (s : List Char) : (ofChars s).chars.length ≤ s.length :=
  calc (ofChars s).chars.length
      ≤ (Text.dotted (Text.trim s)).length := (Text.strip_sublist _ _).length_le
    _ ≤ (Text.trim s).length := Text.length_dotted_le _
    _ ≤ s.length := (Text.strip_sublist _ _).length_le

/-- A text that loses no characters when a name is made from it is that name. -/
theorem ofChars_eq_of_length_le {s : List Char} (h : s.length ≤ (ofChars s).chars.length) :
    ofChars s = ⟨s⟩ := by
  have hstrip := (Text.strip_sublist (· == '.') (Text.dotted (Text.trim s))).length_le
  have hdots := Text.length_dotted_le (Text.trim s)
  have htrim := (Text.strip_sublist Text.isBlank s).length_le
  have hlen : (ofChars s).chars.length =
      (Text.strip (· == '.') (Text.dotted (Text.trim s))).length := rfl
  -- No step makes the text longer, so each one leaves the length as it is.
  have htrim' : Text.trim s = s :=
    (Text.strip_sublist Text.isBlank s).eq_of_length_le (by unfold Text.trim at *; omega)
  have hdots' : Text.dotted (Text.trim s) = Text.trim s :=
    Text.dotted_eq_of_length_le (by unfold Text.trim at *; omega)
  have hstrip' : Text.strip (· == '.') (Text.dotted (Text.trim s)) = Text.dotted (Text.trim s) :=
    (Text.strip_sublist _ _).eq_of_length_le (by unfold Text.trim at *; omega)
  rw [ofChars, hstrip', hdots', htrim']

/-- No blanks stand at the ends of a text that is its own name. -/
theorem trim_of_ofChars_eq {n : Name} (h : ofChars n.chars = n) :
    Text.trim n.chars = n.chars := by
  -- The two steps after trimming do not make the text longer, so trimming has taken nothing.
  have hle : n.chars.length ≤ (Text.trim n.chars).length :=
    calc n.chars.length
        = (ofChars n.chars).chars.length := by rw [h]
      _ ≤ (Text.dotted (Text.trim n.chars)).length := (Text.strip_sublist _ _).length_le
      _ ≤ (Text.trim n.chars).length := Text.length_dotted_le _
  exact (Text.strip_sublist _ _).eq_of_length_le hle

end LoggerTree.Name
