import LoggerTree.Text.Blank
import LoggerTree.Text.Split
import Mathlib.Data.List.TakeWhile
import Mathlib.Tactic.ByContra

/-! # Facts about texts

    What trimming, cutting and joining do to a text. Most of the statements come in two kinds: an
    operation finds the parts that a text was put together from, and no operation makes a text
    longer or leaves its length as it was without leaving the text as it was.
-/

namespace LoggerTree.Text

/-! ### Trimming -/

theorem prefix_dropEndWhile (p : Char → Bool) (s : List Char) : dropEndWhile p s <+: s := by
  unfold dropEndWhile
  rw [← List.reverse_suffix, List.reverse_reverse]
  exact List.dropWhile_suffix p

theorem strip_sublist (p : Char → Bool) (s : List Char) : (strip p s).Sublist s :=
  (prefix_dropEndWhile p _).sublist.trans (List.dropWhile_suffix p).sublist

/-- A text stays as it is if the test refuses both of its ends. -/
theorem strip_eq_self {p : Char → Bool} {s : List Char} (hfirst : ∀ c ∈ s.head?, p c = false)
    (hlast : ∀ c ∈ s.getLast?, p c = false) : strip p s = s := by
  have hfront : s.dropWhile p = s := by
    cases s with
    | nil => rfl
    | cons c s => rw [List.dropWhile_cons_of_neg (by simpa using hfirst c)]
  -- The front is left alone, so only the last character is to be looked at.
  unfold strip
  rw [hfront]
  rcases List.eq_nil_or_concat s with rfl | ⟨init, c, rfl⟩
  · rfl
  · rw [List.concat_eq_append] at hlast ⊢
    rw [dropEndWhile_concat, if_neg (by simpa using hlast c)]

/-- What stripping leaves as it is has no end that the test accepts. -/
theorem head?_of_strip_eq_self {p : Char → Bool} {s : List Char} (h : strip p s = s) :
    ∀ c ∈ s.head?, p c = false := by
  intro c hc
  by_contra hp
  cases s with
  | nil => simp at hc
  | cons d s =>
    obtain rfl : d = c := by simpa using hc
    -- A first character that the test accepts goes, which makes the text shorter.
    have hshort : (strip p (d :: s)).Sublist s := by
      unfold strip
      rw [List.dropWhile_cons_of_pos (by simpa using hp)]
      exact strip_sublist p s
    rw [h] at hshort
    exact absurd hshort.length_le (by simp)

theorem takeWhile_prefix_mono (q : Char → Bool) {s t : List Char} (h : s <+: t) :
    s.takeWhile q <+: t.takeWhile q := by
  obtain ⟨rest, rfl⟩ := h
  rw [List.takeWhile_append]
  split
  · next hall =>
    rw [List.Sublist.eq_of_length (List.takeWhile_sublist q) hall]
    exact List.prefix_append s _
  · exact List.prefix_rfl

/-- Stripping by one test adds nothing to the start of a text that a wider test accepts. -/
theorem takeWhile_strip_sublist {p q : Char → Bool} (hpq : ∀ c, p c = true → q c = true)
    (s : List Char) : ((strip p s).takeWhile q).Sublist (s.takeWhile q) := by
  have hfront : s.takeWhile q = s.takeWhile p ++ (s.dropWhile p).takeWhile q := by
    have happend : (s.takeWhile p ++ s.dropWhile p).takeWhile q =
        s.takeWhile p ++ (s.dropWhile p).takeWhile q :=
      List.takeWhile_append_of_pos fun c hc => hpq c (List.mem_takeWhile_imp hc)
    rwa [List.takeWhile_append_dropWhile] at happend
  rw [hfront]
  -- What the narrow test takes from the front has been in the start of the wider test.
  exact (takeWhile_prefix_mono q (prefix_dropEndWhile p _)).sublist.trans
    (List.sublist_append_right _ _)

/-! ### The first separator -/

theorem cut?_eq_none_iff {separator : Char} {s : List Char} :
    cut? separator s = none ↔ separator ∉ s := by
  induction s with
  | nil => simp [cut?]
  | cons c s ih =>
    rw [cut?]
    by_cases hc : c = separator
    · simp [hc]
    · simp [hc, ih, Ne.symm hc]

/-- The first cut finds the two sides of a separator, if the left one holds none. -/
theorem cut?_append {separator : Char} {l : List Char} (h : separator ∉ l) (r : List Char) :
    cut? separator (l ++ separator :: r) = some (l, r) := by
  induction l with
  | nil => simp [cut?]
  | cons c l ih =>
    simp only [List.mem_cons, not_or] at h
    simp [cut?, Ne.symm h.1, ih h.2]

/-- What stands before the first separator. -/
theorem eq_takeWhile_of_cut? {separator : Char} {s l r : List Char}
    (h : cut? separator s = some (l, r)) : l = s.takeWhile (· ≠ separator) := by
  induction s generalizing l with
  | nil => simp [cut?] at h
  | cons c s ih =>
    rw [cut?] at h
    by_cases hc : c = separator
    · rw [if_pos hc] at h
      cases h
      simp [hc]
    · rw [if_neg hc] at h
      obtain ⟨⟨l', r'⟩, hcut, heq⟩ := Option.map_eq_some_iff.1 h
      cases heq
      rw [List.takeWhile_cons_of_pos (by simp [hc]), ih hcut]

/-- What stands before the first separator, told from the two sides of it. -/
theorem takeWhile_append_cons {separator : Char} {l : List Char} (h : separator ∉ l)
    (r : List Char) : (l ++ separator :: r).takeWhile (· ≠ separator) = l := by
  rw [List.takeWhile_append_of_pos]
  · simp
  · intro c hc
    have hne : c ≠ separator := by
      rintro rfl
      exact h hc
    simpa using hne

/-! ### The last separator -/

theorem beforeLast?_eq_none_iff {separator : Char} {s : List Char} :
    beforeLast? separator s = none ↔ separator ∉ s := by
  induction s with
  | nil => simp [beforeLast?]
  | cons c s ih =>
    rw [beforeLast?]
    cases hl : beforeLast? separator s with
    | some l =>
      have hmem : separator ∈ s := by
        by_contra hnot
        rw [ih.2 hnot] at hl
        exact absurd hl (by simp)
      simp [hmem]
    | none =>
      have hnot : separator ∉ s := ih.1 hl
      by_cases hc : c = separator
      · simp [hc]
      · simp [hc, hnot, Ne.symm hc]

/-- The part before the last separator is followed by the separator and by no other one. -/
theorem eq_of_beforeLast?_eq_some {separator : Char} {s l : List Char}
    (h : beforeLast? separator s = some l) :
    ∃ r, s = l ++ separator :: r ∧ separator ∉ r := by
  induction s generalizing l with
  | nil => simp [beforeLast?] at h
  | cons c s ih =>
    rw [beforeLast?] at h
    -- The character at hand counts only if no separator comes after it.
    cases hl : beforeLast? separator s with
    | some l' =>
      rw [hl] at h
      cases h
      obtain ⟨r, rfl, hr⟩ := ih hl
      exact ⟨r, rfl, hr⟩
    | none =>
      rw [hl] at h
      by_cases hc : c = separator
      · simp only [hc, ↓reduceIte, Option.some.injEq] at h
        subst h
        exact ⟨s, by rw [hc]; rfl, beforeLast?_eq_none_iff.1 hl⟩
      · simp [hc] at h

/-- The last cut finds the two sides of a separator, if the right one holds none. -/
theorem beforeLast?_append {separator : Char} (l : List Char) {r : List Char}
    (h : separator ∉ r) : beforeLast? separator (l ++ separator :: r) = some l := by
  induction l with
  | nil => rw [List.nil_append, beforeLast?, beforeLast?_eq_none_iff.2 h, if_pos rfl]
  | cons c l ih => rw [List.cons_append, beforeLast?, ih]

/-! ### All separators -/

theorem split_of_not_mem {separator : Char} {s : List Char} (h : separator ∉ s) :
    split separator s = [s] := by
  induction s with
  | nil => rfl
  | cons c s ih =>
    simp only [List.mem_cons, not_or] at h
    simp [split, Ne.symm h.1, ih h.2]

/-- A separator keeps the pieces on its two sides apart. -/
theorem split_append_cons (separator : Char) (s t : List Char) :
    split separator (s ++ separator :: t) = split separator s ++ split separator t := by
  induction s with
  | nil => simp [split]
  | cons c s ih =>
    rw [List.cons_append, split, split]
    by_cases hc : c = separator
    · simp [hc, ih]
    · rw [if_neg hc, if_neg hc, ih]
      -- The character goes to the first piece, and there always is one.
      cases hs : split separator s with
      | nil => exact absurd hs (split_ne_nil separator s)
      | cons w ws => simp

/-- Joined pieces are split where they were joined, and each one where it holds separators. -/
theorem split_intercalate (separator : Char) (s : List Char) (pieces : List (List Char)) :
    split separator ([separator].intercalate (s :: pieces)) =
      (s :: pieces).flatMap (split separator) := by
  induction pieces generalizing s with
  | nil => simp
  | cons t pieces ih =>
    rw [List.intercalate_cons_cons, List.append_assoc, List.singleton_append, split_append_cons,
      ih]
    rfl

/-- Pieces without separators are found again. -/
theorem split_intercalate_of_not_mem {separator : Char} {pieces : List (List Char)}
    (hne : pieces ≠ []) (h : ∀ w ∈ pieces, separator ∉ w) :
    split separator ([separator].intercalate pieces) = pieces := by
  have hpieces : pieces.flatMap (split separator) = pieces := by
    clear hne
    induction pieces with
    | nil => rfl
    | cons w ws ih =>
      rw [List.forall_mem_cons] at h
      rw [List.flatMap_cons, split_of_not_mem h.1, ih h.2]
      rfl
  obtain ⟨w, ws, rfl⟩ := List.exists_cons_of_ne_nil hne
  rw [split_intercalate, hpieces]

/-- No separator is left in a piece. -/
theorem not_mem_of_mem_split {separator : Char} {s w : List Char} (h : w ∈ split separator s) :
    separator ∉ w := by
  induction s generalizing w with
  | nil =>
    rw [List.mem_singleton.1 h]
    exact List.not_mem_nil
  | cons c s ih =>
    rw [split] at h
    by_cases hc : c = separator
    · rw [if_pos hc] at h
      rcases List.mem_cons.1 h with rfl | h
      · exact List.not_mem_nil
      · exact ih h
    · obtain ⟨v, vs, hs⟩ := List.exists_cons_of_ne_nil (split_ne_nil separator s)
      rw [hs] at ih
      rw [if_neg hc, hs, List.modifyHead_cons] at h
      rcases List.mem_cons.1 h with rfl | h
      · have hv := ih (w := v) (by simp)
        simp [Ne.symm hc, hv]
      · exact ih (by simp [h])

/-- Joined with the separator, the pieces give the text back. -/
theorem intercalate_split (separator : Char) (s : List Char) :
    [separator].intercalate (split separator s) = s := by
  induction s with
  | nil => rfl
  | cons c s ih =>
    rw [split]
    by_cases hc : c = separator
    · rw [if_pos hc, List.intercalate_cons_of_ne_nil (split_ne_nil separator s), ih, hc]
      rfl
    · -- The character goes to the first piece, and there always is one.
      obtain ⟨w, ws, hs⟩ := List.exists_cons_of_ne_nil (split_ne_nil separator s)
      rw [if_neg hc, hs, List.modifyHead_cons, List.intercalate_cons_cons_left, ← hs, ih]

theorem intercalate_append (separator : Char) {us vs : List (List Char)} (hus : us ≠ [])
    (hvs : vs ≠ []) : [separator].intercalate (us ++ vs) =
      [separator].intercalate us ++ separator :: [separator].intercalate vs := by
  induction us with
  | nil => exact absurd rfl hus
  | cons u us ih =>
    by_cases hnil : us = []
    · subst hnil
      simp [List.intercalate_cons_of_ne_nil hvs]
    · rw [List.cons_append, List.intercalate_cons_of_ne_nil (by simp [hnil]), ih hnil,
        List.intercalate_cons_of_ne_nil hnil]
      simp

/-! ### Sizes -/

theorem byteLength_append (s t : List Char) :
    byteLength (s ++ t) = byteLength s + byteLength t := by
  induction s with
  | nil => simp
  | cons c s ih => simp [ih, Nat.add_assoc]

theorem byteLength_pos {s : List Char} (h : s ≠ []) : 0 < byteLength s := by
  cases s with
  | nil => exact absurd rfl h
  | cons c s =>
    have := c.utf8Size_pos
    simp only [byteLength_cons]
    omega

theorem length_dotted_le (s : List Char) : (dotted s).length ≤ s.length := by
  fun_induction dotted s with
  | case1 s ih => simp only [List.length_cons]; omega
  | case2 c s _ ih => simp only [List.length_cons]; omega
  | case3 => simp

/-- Every `::` makes the text shorter. -/
theorem dotted_eq_of_length_le {s : List Char} (h : s.length ≤ (dotted s).length) :
    dotted s = s := by
  fun_induction dotted s with
  | case1 s ih =>
    have hle := length_dotted_le s
    simp only [List.length_cons] at h
    omega
  | case2 c s _ ih =>
    simp only [List.length_cons] at h
    rw [ih (by omega)]
  | case3 => rfl

end LoggerTree.Text
