import LoggerTree.Proofs.Text
import Mathlib.Data.List.DropRight

/-! # Blanks around texts

    Blanks put at the ends of a text do not show once it is trimmed, and where a text is cut at a
    character that is no blank, each side keeps its own inner blanks.
-/

namespace LoggerTree.Text

/-! ### Stripping what was put around -/

section

variable {p : Char → Bool}

theorem strip_append_left {b : List Char} (h : ∀ c ∈ b, p c = true) (s : List Char) :
    strip p (b ++ s) = strip p s := by
  rw [strip, strip, List.dropWhile_append_of_pos h]

theorem dropEndWhile_append {b : List Char} (h : ∀ c ∈ b, p c = true) (s : List Char) :
    dropEndWhile p (s ++ b) = dropEndWhile p s := by
  have hreverse : ∀ c ∈ b.reverse, p c = true := by simpa using h
  rw [dropEndWhile, dropEndWhile, List.reverse_append, List.dropWhile_append_of_pos hreverse]

theorem strip_append_right {b : List Char} (h : ∀ c ∈ b, p c = true) (s : List Char) :
    strip p (s ++ b) = strip p s := by
  rw [strip, strip, List.dropWhile_append]
  split
  · next hnone =>
    -- All of the text goes, and so does what was put behind it.
    rw [List.isEmpty_iff.1 hnone, List.dropWhile_eq_nil_iff.2 h]
  · exact dropEndWhile_append h _

theorem dropEndWhile_eq_nil_iff {s : List Char} :
    dropEndWhile p s = [] ↔ ∀ c ∈ s, p c = true := by
  simp [dropEndWhile, List.dropWhile_eq_nil_iff]

/-- Nothing is left of a text that the test accepts throughout, and of no other one. -/
theorem strip_eq_nil_iff {s : List Char} : strip p s = [] ↔ ∀ c ∈ s, p c = true := by
  rw [strip, dropEndWhile_eq_nil_iff, ← List.dropWhile_eq_nil_iff, ← List.dropWhile_eq_nil_iff,
    List.dropWhile_idempotent]

/-! ### Cutting at what stays -/

theorem dropWhile_append_cons {c : Char} (hc : p c = false) (l r : List Char) :
    (l ++ c :: r).dropWhile p = l.dropWhile p ++ c :: r := by
  rw [List.dropWhile_append, List.dropWhile_cons_of_neg (by simp [hc])]
  split
  · next hnone => rw [List.isEmpty_iff.1 hnone, List.nil_append]
  · rfl

theorem dropEndWhile_append_cons {c : Char} (hc : p c = false) (l r : List Char) :
    dropEndWhile p (l ++ c :: r) = l ++ c :: dropEndWhile p r := by
  have hreverse : (l ++ c :: r).reverse = r.reverse ++ c :: l.reverse := by simp
  rw [dropEndWhile, dropEndWhile, hreverse, dropWhile_append_cons hc]
  simp

/-- A character that stays keeps what is between it and the ends apart. -/
theorem strip_append_cons {c : Char} (hc : p c = false) (l r : List Char) :
    strip p (l ++ c :: r) = l.dropWhile p ++ c :: dropEndWhile p r := by
  rw [strip, dropWhile_append_cons hc, dropEndWhile_append_cons hc]

theorem strip_dropWhile (s : List Char) : strip p (s.dropWhile p) = strip p s := by
  rw [strip, strip, List.dropWhile_idempotent]

theorem strip_dropEndWhile (s : List Char) : strip p (dropEndWhile p s) = strip p s := by
  -- What has been dropped from the end is accepted, so it may be put back.
  have hrest : ∀ c ∈ (s.reverse.takeWhile p).reverse, p c = true := by
    intro c hc
    exact List.mem_takeWhile_imp (List.mem_reverse.1 hc)
  have hwhole : dropEndWhile p s ++ (s.reverse.takeWhile p).reverse = s := by
    rw [dropEndWhile, ← List.reverse_append, List.takeWhile_append_dropWhile, List.reverse_reverse]
  rw [← strip_append_right hrest, hwhole]

theorem strip_strip (s : List Char) : strip p (strip p s) = strip p s :=
  calc strip p (strip p s)
      = strip p (s.dropWhile p) := strip_dropEndWhile _
    _ = strip p s := strip_dropWhile s

end

/-! ### Blank texts -/

/-- A text of blanks alone, or of nothing. -/
def Blank (s : List Char) : Prop :=
  ∀ c ∈ s, isBlank c = true

instance (s : List Char) : Decidable (Blank s) :=
  decidable_of_iff (s.all isBlank = true) List.all_eq_true

theorem trim_eq_nil_iff {s : List Char} : trim s = [] ↔ Blank s :=
  strip_eq_nil_iff

theorem trim_pad {b c : List Char} (hb : Blank b) (hc : Blank c) (s : List Char) :
    trim (b ++ s ++ c) = trim s := by
  rw [trim, trim, strip_append_right hc, strip_append_left hb]

theorem trim_trim (s : List Char) : trim (trim s) = trim s :=
  strip_strip s

theorem trim_dropEndWhile (s : List Char) : trim (dropEndWhile isBlank s) = trim s :=
  strip_dropEndWhile s

theorem Blank.not_mem {s : List Char} (h : Blank s) {c : Char} (hc : isBlank c = false) :
    c ∉ s := by
  intro hmem
  rw [h c hmem] at hc
  cases hc

end LoggerTree.Text
