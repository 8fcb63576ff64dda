import LoggerTree.Proofs.Text.Blanks
import LoggerTree.Proofs.Text.Paths

/-! # The ends of a text

    Trimming looks at blanks alone. A blank that stands next to separators at an end of a text, as
    in `. a` or `a::  ::`, is **hidden** behind them.

    Main statement: `endsIn_strip_dotted_iff`. Where the separators go after the blanks, hidden
    blanks are what is left at the ends, and nothing else is.
-/

namespace LoggerTree.Text

/-! ### What ends a text -/

/-- A test accepts the first character of a text, or the last one. -/
def EndsIn (p : Char → Bool) (s : List Char) : Prop :=
  (∃ c ∈ s.head?, p c = true) ∨ ∃ c ∈ s.getLast?, p c = true

/-- Only two characters have to be looked at. -/
instance (p : Char → Bool) (s : List Char) : Decidable (EndsIn p s) :=
  decidable_of_iff (s.head?.any p = true ∨ s.getLast?.any p = true) <| by
    simp [EndsIn, Option.any_eq_true]

theorem infix_strip (p : Char → Bool) (s : List Char) : strip p s <:+: s :=
  (prefix_dropEndWhile p _).isInfix.trans (List.dropWhile_suffix p).isInfix

/-- The texts that stripping leaves as they are have ends which the test refuses. -/
theorem strip_eq_self_iff {p : Char → Bool} {s : List Char} : strip p s = s ↔ ¬EndsIn p s := by
  constructor
  · intro h hends
    rcases hends with ⟨c, hfirst, hc⟩ | ⟨c, hlast, hc⟩
    · have hrefused := head?_of_strip_eq_self h c hfirst
      rw [hc] at hrefused
      cases hrefused
    · -- A last character that the test accepts goes, which makes the text shorter.
      obtain ⟨init, rfl⟩ := List.getLast?_eq_some_iff.1 hlast
      rw [strip_append_right (by simpa using hc)] at h
      have hlength := (strip_sublist p init).length_le
      rw [h, List.length_append, List.length_singleton] at hlength
      omega
  · intro h
    obtain ⟨hfirst, hlast⟩ := not_or.1 h
    apply strip_eq_self
    · intro c hc
      exact Bool.eq_false_iff.2 fun haccepted => hfirst ⟨c, hc, haccepted⟩
    · intro c hc
      exact Bool.eq_false_iff.2 fun haccepted => hlast ⟨c, hc, haccepted⟩

/-- What is stripped has no end that the test accepts. -/
theorem not_endsIn_strip (p : Char → Bool) (s : List Char) : ¬EndsIn p (strip p s) :=
  strip_eq_self_iff.1 (strip_strip s)

/-! ### Dots for colons, once more -/

/-- The texts that keep their colons are those in which no two of them stand side by side. -/
theorem dotted_eq_self_iff {s : List Char} : dotted s = s ↔ ¬[':', ':'] <:+: s := by
  fun_induction dotted s with
  | case1 s ih =>
    have hshorter := length_dotted_le s
    have hne : '.' :: dotted s ≠ ':' :: ':' :: s := by
      intro heq
      have hlength := congrArg List.length heq
      simp only [List.length_cons] at hlength
      omega
    have hcolons : [':', ':'] <:+: ':' :: ':' :: s := ⟨[], s, rfl⟩
    exact iff_of_false hne (not_not_intro hcolons)
  | case2 c s hc ih =>
    have hnot : ¬[':', ':'] <+: c :: s := by
      rintro ⟨rest, heq⟩
      cases heq
      exact hc rest rfl rfl
    rw [List.cons.injEq, List.infix_cons_iff, ih]
    simp [hnot]
  | case3 => simp

/-- On the two sides of a character that is no colon, the dots come apart. -/
theorem dotted_append_cons {c : Char} (hc : c ≠ ':') (l r : List Char) :
    dotted (l ++ c :: r) = dotted l ++ c :: dotted r := by
  fun_induction dotted l with
  | case1 l ih => simp [dotted, ih]
  | case2 d l hd ih =>
    have hnext : ∀ rest, d = ':' → l ++ c :: r = ':' :: rest → False := by
      intro rest hcolon heq
      cases l with
      | nil => exact hc (List.cons.inj heq).1
      | cons e l => exact hd l hcolon (by rw [(List.cons.inj heq).1])
    rw [List.cons_append, dotted, ih]
    · rfl
    · exact hnext
  | case3 => exact dotted_cons_of_ne hc r

/-- A character that no colons become was there before, between the parts that became its two
    sides. -/
theorem exists_of_dotted_eq_append_cons {c : Char} (hdot : c ≠ '.') {s u v : List Char}
    (h : dotted s = u ++ c :: v) : ∃ l r, s = l ++ c :: r ∧ dotted l = u ∧ dotted r = v := by
  fun_induction dotted s generalizing u with
  | case1 s ih =>
    cases u with
    | nil => exact absurd (List.cons.inj h).1.symm hdot
    | cons d u =>
      obtain ⟨rfl, hrest⟩ := List.cons.inj h
      obtain ⟨l, r, rfl, rfl, rfl⟩ := ih hrest
      exact ⟨':' :: ':' :: l, r, rfl, by rw [dotted], rfl⟩
  | case2 d s hd ih =>
    cases u with
    | nil =>
      obtain ⟨rfl, hrest⟩ := List.cons.inj h
      exact ⟨[], s, rfl, rfl, hrest⟩
    | cons e u =>
      obtain ⟨rfl, hrest⟩ := List.cons.inj h
      obtain ⟨l, r, rfl, rfl, rfl⟩ := ih hrest
      refine ⟨d :: l, r, rfl, ?_, rfl⟩
      rw [dotted]
      intro rest hcolon heq
      exact hd (rest ++ c :: r) hcolon (by rw [heq]; rfl)
  | case3 => simp at h

/-! ### Hidden blanks -/

/-- Dots and doubled colons alone, one of them at least. -/
structure Separators (s : List Char) : Prop where
  ne_nil : s ≠ []
  dots : ∀ c ∈ dotted s, c = '.'

/-- Once a text is trimmed, a blank stands behind the separators at its front or before those at
    its back. -/
inductive HidesBlank (s : List Char) : Prop where
  | front {separators rest : List Char} {b : Char} (hseparators : Separators separators)
    (hblank : isBlank b = true) (htext : trim s = separators ++ b :: rest)
  | back {separators rest : List Char} {b : Char} (hseparators : Separators separators)
    (hblank : isBlank b = true) (htext : trim s = rest ++ b :: separators)

theorem ne_of_isBlank {b c : Char} (hb : isBlank b = true) (hc : isBlank c = false) : b ≠ c := by
  rintro rfl
  rw [hb] at hc
  cases hc

theorem beq_dot_of_isBlank {b : Char} (hb : isBlank b = true) : (b == '.') = false :=
  beq_eq_false_iff_ne.2 (ne_of_isBlank hb (by decide))

/-- The separators that a hidden blank stands next to go, and then the blank is the end. -/
theorem HidesBlank.endsIn {s : List Char} (h : HidesBlank s) :
    EndsIn isBlank (strip (· == '.') (dotted (trim s))) := by
  cases h with
  | @front separators rest b hseparators hblank htext =>
    have hgone : (dotted separators).dropWhile (· == '.') = [] := by
      simpa [List.dropWhile_eq_nil_iff] using hseparators.dots
    rw [htext, dotted_append_cons (ne_of_isBlank hblank (by decide)),
      strip_append_cons (p := (· == '.')) (beq_dot_of_isBlank hblank), hgone]
    exact .inl ⟨b, rfl, hblank⟩
  | @back separators rest b hseparators hblank htext =>
    have hgone : dropEndWhile (· == '.') (dotted separators) = [] := by
      simpa [dropEndWhile_eq_nil_iff] using hseparators.dots
    rw [htext, dotted_append_cons (ne_of_isBlank hblank (by decide)),
      strip_append_cons (p := (· == '.')) (beq_dot_of_isBlank hblank), hgone]
    exact .inr ⟨b, by rw [Option.mem_def, List.getLast?_concat], hblank⟩

/-- A stripped text is what stood between two runs of what the test accepts. -/
theorem exists_of_strip (p : Char → Bool) (s : List Char) :
    ∃ l r, s = l ++ strip p s ++ r ∧ (∀ c ∈ l, p c = true) ∧ ∀ c ∈ r, p c = true := by
  refine ⟨s.takeWhile p, ((s.dropWhile p).reverse.takeWhile p).reverse, ?_, ?_, ?_⟩
  · have hback : strip p s ++ ((s.dropWhile p).reverse.takeWhile p).reverse = s.dropWhile p := by
      rw [strip, dropEndWhile, ← List.reverse_append, List.takeWhile_append_dropWhile,
        List.reverse_reverse]
    rw [List.append_assoc, hback, List.takeWhile_append_dropWhile]
  · intro c hc
    exact List.mem_takeWhile_imp hc
  · intro c hc
    exact List.mem_takeWhile_imp (List.mem_reverse.1 hc)

/-- **What is left of blanks at the ends are the hidden ones.** -/
theorem endsIn_strip_dotted_iff {s : List Char} :
    EndsIn isBlank (strip (· == '.') (dotted (trim s))) ↔ HidesBlank s := by
  constructor
  · intro h
    have htrimmed : ¬EndsIn isBlank (trim s) := not_endsIn_strip isBlank s
    obtain ⟨before, after, hdotted, hbefore, hafter⟩ :=
      exists_of_strip (· == '.') (dotted (trim s))
    simp only [beq_iff_eq] at hbefore hafter
    rcases h with ⟨b, hfirst, hb⟩ | ⟨b, hlast, hb⟩
    · obtain ⟨rest, hrest⟩ := List.head?_eq_some_iff.1 hfirst
      rw [hrest, List.append_assoc, List.cons_append] at hdotted
      obtain ⟨l, r, htext, rfl, -⟩ :=
        exists_of_dotted_eq_append_cons (ne_of_isBlank hb (by decide)) hdotted
      -- With nothing in front of it, trimming would have taken the blank.
      have hne : l ≠ [] := by
        rintro rfl
        exact htrimmed (.inl ⟨b, by rw [htext]; rfl, hb⟩)
      exact .front ⟨hne, hbefore⟩ hb htext
    · obtain ⟨init, hinit⟩ := List.getLast?_eq_some_iff.1 hlast
      rw [hinit, ← List.append_assoc, List.append_assoc, List.singleton_append] at hdotted
      obtain ⟨l, r, htext, -, rfl⟩ :=
        exists_of_dotted_eq_append_cons (ne_of_isBlank hb (by decide)) hdotted
      have hne : r ≠ [] := by
        rintro rfl
        exact htrimmed (.inr ⟨b, by rw [htext, Option.mem_def, List.getLast?_concat], hb⟩)
      exact .back ⟨hne, hafter⟩ hb htext
  · exact HidesBlank.endsIn

end LoggerTree.Text
