import LoggerTree.Proofs.Directives.Rules
import LoggerTree.Proofs.Facade.Handles
import LoggerTree.Proofs.Name.Hierarchy
import LoggerTree.Proofs.Name.Normal
import LoggerTree.Proofs.Text.Ends

/-! # Canonical names

    The text of a name can be used to ask for the logger of that name once more, and to give the
    name a threshold. Both work if making a name from this text gives the same name.

    Making a name takes three steps, each of them once: blanks go, a dot is put for each `::`, and
    dots at the ends go. No `::` and no dot at an end is left. A blank that is hidden behind the
    separators is left, since it shows after the blanks have gone.

    Main statement: `canonical_unless_hidden`. Names are made again from their own texts just if
    no blank was hidden in the first place.
-/

namespace LoggerTree

/-! ### Names from names -/

namespace Name

theorem not_colons_infix_ofChars (s : List Char) : ¬[':', ':'] <:+: (ofChars s).chars := by
  intro h
  have hdotted : [':', ':'] <:+: Text.dotted (Text.trim s) := h.trans (Text.infix_strip _ _)
  exact Text.dotted_eq_self_iff.1 (Text.dotted_dotted _) hdotted

theorem not_endsIn_dot_ofChars (s : List Char) : ¬Text.EndsIn (· == '.') (ofChars s).chars :=
  Text.not_endsIn_strip _ _

theorem endsIn_blank_ofChars_iff {s : List Char} :
    Text.EndsIn Text.isBlank (ofChars s).chars ↔ Text.HidesBlank s :=
  Text.endsIn_strip_dotted_iff

/-- A name is made again from its own text if there are no blanks for trimming to take. -/
theorem ofChars_chars_ofChars_iff {s : List Char} :
    ofChars (ofChars s).chars = ofChars s ↔ ¬Text.HidesBlank s := by
  rw [← endsIn_blank_ofChars_iff]
  constructor
  · intro h
    exact Text.strip_eq_self_iff.1 (trim_of_ofChars_eq h)
  · intro h
    have htrim : Text.trim (ofChars s).chars = (ofChars s).chars := Text.strip_eq_self_iff.2 h
    have hdotted : Text.dotted (ofChars s).chars = (ofChars s).chars :=
      Text.dotted_eq_self_iff.2 (not_colons_infix_ofChars s)
    have hstrip : Text.strip (· == '.') (ofChars s).chars = (ofChars s).chars :=
      Text.strip_eq_self_iff.2 (not_endsIn_dot_ofChars s)
    rw [ofChars, htrim, hdotted, hstrip]

end Name

/-! ### Thresholds by the text of a name -/

namespace Directives

/-- What a name has been given for itself is its threshold. -/
theorem WellFormed.threshold_of_given? {d : Directives} (h : d.WellFormed) {n : Name}
    {t : Threshold} (hgiven : d.given? n = some t) : d.threshold n = t := by
  have hclimb := h.findSome?_given? n
  obtain ⟨above, hlineage⟩ := List.head?_eq_some_iff.1 n.head?_lineage
  rw [hlineage, List.findSome?_cons, hgiven] at hclimb
  exact (Option.some.inj hclimb).symm

/-- To give a threshold to `m` is to give it to `n`, whatever other thresholds there are, only if
    they are the same. -/
theorem threshold_assign_iff {n m : Name} :
    (∀ d : Directives, d.WellFormed → ∀ t, (d.assign m t).threshold n = t) ↔ m = n := by
  constructor
  · intro h
    by_contra hne
    -- A rule of its own keeps `n` from what is assigned elsewhere.
    let d : Directives := ({} : Directives).assign n .off
    have hd : d.WellFormed := (wellFormed_plain _).assign n .off
    have hgiven : (d.assign m (.atLeast .trace)).given? n = some .off := by
      rw [given?_assign, if_neg (Ne.symm hne), given?_assign, if_pos rfl]
    have hoff := (hd.assign m _).threshold_of_given? hgiven
    rw [h d hd] at hoff
    cases hoff
  · rintro rfl d hd t
    apply (hd.assign m t).threshold_of_given?
    rw [given?_assign, if_pos rfl]

end Directives

/-! ### Loggers by the text of a name -/

namespace Facade

/-- Asking for a name gives a logger that has been handed out if that is its name. -/
theorem Interns.named_eq_iff {f : Facade} {l : Logger} (h : f.Interns l.backend)
    (hl : l ∈ f.loggers) {k : Nat} (hk : (f.factories k).backend = l.backend) {n : Name} :
    (f.named k n).1 = l ↔ n = l.name := by
  show (f.handle (f.factories k).backend n).1 = l ↔ _
  rw [hk]
  constructor
  · intro heq
    rw [← heq, name_handle]
  · rintro rfl
    have hknown := h.known l hl rfl
    unfold handle
    cases hfound : (f.backends l.backend).handles.find? l.name with
    | none =>
      -- There is a handle of that name, the one of the logger.
      have hmem : l.name ∈ f.names l.backend := List.mem_map.2 ⟨l.handle, hknown, rfl⟩
      exact absurd hmem (find?_eq_none_iff.1 hfound)
    | some handle =>
      have hsame : handle = l.handle :=
        h.backend.eq_of_name (List.mem_of_find?_eq_some hfound) hknown
          (Handles.name_of_find? hfound)
      rw [hsame]

end Facade

/-! ### What a name is good for -/

/-- What is to be known about the name made from a text. -/
structure Name.Canonical (s : List Char) : Prop where
  no_colons : ¬[':', ':'] <:+: (ofChars s).chars
  no_dots : ¬Text.EndsIn (· == '.') (ofChars s).chars
  /-- Blanks are at an end of the name if they were hidden in the text. -/
  blanks : Text.EndsIn Text.isBlank (ofChars s).chars ↔ Text.HidesBlank s
  /-- If not, the name is made again from its own text. -/
  renewed : ofChars (ofChars s).chars = ofChars s ↔ ¬Text.HidesBlank s
  /-- Just then a factory gives a logger of this name once more when it is asked with the text of
      the name, whatever has been done before. -/
  logger : ∀ start : Facade, (∀ b, (start.backends b).handles = []) → start.loggers = [] →
    ∀ history, ∀ l ∈ (start.run history).loggers, l.name = ofChars s →
      ∀ k, ((start.run history).factories k).backend = l.backend →
        (((start.run history).acquire k (.name l.name.chars)).1 = l ↔ ¬Text.HidesBlank s)
  /-- And just then the name has the threshold that its text is given, whatever other names have
      been given. -/
  directive : (∀ d : Directives, d.WellFormed → ∀ t,
    (d.assign (ofChars (ofChars s).chars) t).threshold (ofChars s) = t) ↔ ¬Text.HidesBlank s

/-- **A name stands for itself unless it was made from a text with a hidden blank.** -/
theorem Name.canonical_unless_hidden (s : List Char) : Canonical s where
  no_colons := not_colons_infix_ofChars s
  no_dots := not_endsIn_dot_ofChars s
  blanks := endsIn_blank_ofChars_iff
  renewed := ofChars_chars_ofChars_iff
  logger := by
    intro start hbackends hloggers history l hl hname k hk
    have hinterns : (start.run history).Interns l.backend :=
      (Facade.Interns.of_new (hbackends l.backend) hloggers).run history
    have hnamed := hinterns.named_eq_iff hl hk (n := ofChars l.name.chars)
    rw [hname, ofChars_chars_ofChars_iff] at hnamed
    rw [hname]
    exact hnamed
  directive := Directives.threshold_assign_iff.trans ofChars_chars_ofChars_iff

/-- In `. a` a blank is hidden behind the dot. The name made from it starts with that blank, and
    another name, `a`, is made from its text: a factory gives another logger, and a directive goes
    to another name. -/
theorem Name.hidden_blank_shows :
    let n := ofString ". a"
    let first := ({} : Facade).acquire 0 (.name ". a".toList)
    Text.EndsIn Text.isBlank n.chars ∧ ofChars n.chars ≠ n ∧ first.1.name = n ∧
      (first.2.acquire 0 (.name first.1.name.chars)).1 ≠ first.1 ∧
      (({} : Directives).assign (ofChars n.chars) .off).threshold n = .atLeast .trace := by
  decide +kernel

end LoggerTree
