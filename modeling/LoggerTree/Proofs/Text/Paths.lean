import LoggerTree.Proofs.Text
import LoggerTree.Text.Alphanumeric
import Mathlib.Data.List.Basic

/-! # Paths

    A **path** is a text of parts with `::` between each two. Putting dots for the `::` is the same
    as cutting the path into its parts and joining these with dots, for every text: also where
    colons stand alone or in longer rows.

    A part of letters, numbers and underscores is an **identifier**. Paths of identifiers come
    apart into just these, and so do the dotted texts they become.
-/

namespace LoggerTree.Text

/-! ### Dots for colons -/

theorem splitPath_ne_nil (s : List Char) : splitPath s ≠ [] := by
  fun_induction splitPath s with
  | case1 s ih => simp
  | case2 c s _ ih => simpa using ih
  | case3 => simp

theorem joinDots_cons {w : List Char} {ws : List (List Char)} (h : ws ≠ []) :
    joinDots (w :: ws) = w ++ '.' :: joinDots ws := by
  obtain ⟨v, vs, rfl⟩ := List.exists_cons_of_ne_nil h
  simp [joinDots, List.intercalate_cons_cons]

theorem joinDots_modifyHead {ws : List (List Char)} (h : ws ≠ []) (c : Char) :
    joinDots (ws.modifyHead (c :: ·)) = c :: joinDots ws := by
  obtain ⟨v, vs, rfl⟩ := List.exists_cons_of_ne_nil h
  cases vs <;> simp [joinDots, List.intercalate_cons_cons]

/-- To put a dot for each `::` is to cut there and to join with dots. -/
theorem joinDots_splitPath (s : List Char) : joinDots (splitPath s) = dotted s := by
  fun_induction splitPath s with
  | case1 s ih =>
    rw [joinDots_cons (splitPath_ne_nil s), ih, dotted]
    rfl
  | case2 c s hc ih =>
    rw [joinDots_modifyHead (splitPath_ne_nil s), ih, dotted]
    exact hc
  | case3 => rfl

theorem dotted_cons_of_ne {c : Char} (h : c ≠ ':') (s : List Char) :
    dotted (c :: s) = c :: dotted s := by
  rw [dotted]
  rintro s' hc -
  exact h hc

theorem dotted_colon_cons {s : List Char} (h : s.head? ≠ some ':') :
    dotted (':' :: s) = ':' :: dotted s := by
  rw [dotted]
  rintro s' - rfl
  exact h rfl

/-- No two colons are left side by side. -/
theorem dotted_dotted (s : List Char) : dotted (dotted s) = dotted s := by
  fun_induction dotted s with
  | case1 s ih => rw [dotted_cons_of_ne (by decide), ih]
  | case2 c s hc ih =>
    by_cases hcolon : c = ':'
    · subst hcolon
      -- What follows a colon that stays does not start with one.
      have hhead : (dotted s).head? ≠ some ':' := by
        cases s with
        | nil => simp [dotted]
        | cons d s =>
          have hd : d ≠ ':' := fun hd => hc s rfl (by rw [hd])
          rw [dotted_cons_of_ne hd]
          simpa using hd
      rw [dotted_colon_cons hhead, ih]
    · rw [dotted_cons_of_ne hcolon, ih]
  | case3 => rfl

/-- Dots come from colons, and everything else was there before. -/
theorem mem_of_mem_dotted {c : Char} {s : List Char} (h : c ∈ dotted s) : c = '.' ∨ c ∈ s := by
  fun_induction dotted s with
  | case1 s ih =>
    rcases List.mem_cons.1 h with rfl | h
    · exact .inl rfl
    · exact (ih h).imp_right fun h => by simp [h]
  | case2 d s _ ih =>
    rcases List.mem_cons.1 h with rfl | h
    · exact .inr (by simp)
    · exact (ih h).imp_right fun h => by simp [h]
  | case3 => cases h

/-! ### Texts without blanks -/

theorem trim_of_forall {s : List Char} (h : ∀ c ∈ s, isBlank c = false) : trim s = s :=
  strip_eq_self (fun c hc => h c (List.mem_of_mem_head? hc))
    (fun c hc => h c (List.mem_of_mem_getLast? hc))

theorem trimStart_of_head? {s : List Char} (h : ∀ c ∈ s.head?, isBlank c = false) :
    trimStart s = s := by
  cases s with
  | nil => rfl
  | cons c s =>
    have hc : isBlank c = false := h c rfl
    rw [trimStart, List.dropWhile_cons_of_neg (by simp [hc])]

/-- The code points of the blanks. -/
def blankCodes : List Nat :=
  [0x09, 0x0A, 0x0B, 0x0C, 0x0D, 0x20, 0x85, 0xA0, 0x1680, 0x2000, 0x2001, 0x2002, 0x2003, 0x2004,
    0x2005, 0x2006, 0x2007, 0x2008, 0x2009, 0x200A, 0x2028, 0x2029, 0x202F, 0x205F, 0x3000]

theorem toNat_mem_blankCodes {c : Char} (h : isBlank c = true) : c.toNat ∈ blankCodes := by
  simp only [isBlank, Bool.or_eq_true, Bool.and_eq_true, decide_eq_true_eq, beq_iff_eq] at h
  simp only [blankCodes, List.mem_cons, List.not_mem_nil, or_false]
  omega

/-- No letter and no number is a blank. -/
theorem isBlank_of_isAlphanumeric {c : Char} (h : isAlphanumeric c = true) :
    isBlank c = false := by
  -- There are few blanks, and none of them is in the tables of letters and numbers.
  have hnone : ∀ n ∈ blankCodes, isAlphanumeric (Char.ofNat n) = false := by decide +kernel
  cases hb : isBlank c with
  | false => rfl
  | true =>
    have hc := hnone c.toNat (toNat_mem_blankCodes hb)
    rw [Char.ofNat_toNat, h] at hc
    cases hc

/-! ### Identifiers -/

/-- A text of letters, numbers and underscores, with at least one of them. -/
structure IsIdentifier (s : List Char) : Prop where
  ne_nil : s ≠ []
  chars : ∀ c ∈ s, isAlphanumeric c = true ∨ c = '_'

/-- Whether a text is an identifier is seen character by character. -/
instance (s : List Char) : Decidable (IsIdentifier s) :=
  decidable_of_iff (s ≠ [] ∧ s.all (fun c => isAlphanumeric c || c == '_') = true)
    ⟨fun ⟨hne, hall⟩ => ⟨hne, fun c hc => by simpa using List.all_eq_true.1 hall c hc⟩,
      fun h => ⟨h.ne_nil, List.all_eq_true.2 fun c hc => by simpa using h.chars c hc⟩⟩

namespace IsIdentifier

variable {s : List Char}

theorem isBlank_eq_false (h : IsIdentifier s) : ∀ c ∈ s, isBlank c = false := by
  intro c hc
  rcases h.chars c hc with halnum | rfl
  · exact isBlank_of_isAlphanumeric halnum
  · decide

/-- No character of an identifier is one that has a meaning around identifiers. -/
theorem not_mem (h : IsIdentifier s) {c : Char} (hc : isAlphanumeric c = false)
    (hne : c ≠ '_') : c ∉ s := by
  intro hmem
  rcases h.chars c hmem with halnum | heq
  · rw [hc] at halnum
    cases halnum
  · exact hne heq

theorem colon_not_mem (h : IsIdentifier s) : ':' ∉ s :=
  h.not_mem (by decide +kernel) (by decide)

theorem dot_not_mem (h : IsIdentifier s) : '.' ∉ s :=
  h.not_mem (by decide +kernel) (by decide)

end IsIdentifier

/-! ### Paths of identifiers -/

/-- The parts with `::` between each two. -/
def joinPath (parts : List (List Char)) : List Char :=
  [':', ':'].intercalate parts

theorem joinPath_cons {w : List Char} {ws : List (List Char)} (h : ws ≠ []) :
    joinPath (w :: ws) = w ++ ':' :: ':' :: joinPath ws := by
  obtain ⟨v, vs, rfl⟩ := List.exists_cons_of_ne_nil h
  simp [joinPath, List.intercalate_cons_cons]

theorem splitPath_of_not_mem {s : List Char} (h : ':' ∉ s) : splitPath s = [s] := by
  induction s with
  | nil => rfl
  | cons c s ih =>
    simp only [List.mem_cons, not_or] at h
    rw [splitPath, ih h.2]
    · rfl
    · rintro s' rfl
      exact absurd rfl h.1

/-- The first `::` behind a part without colons ends it. -/
theorem splitPath_append {w : List Char} (h : ':' ∉ w) (s : List Char) :
    splitPath (w ++ ':' :: ':' :: s) = w :: splitPath s := by
  induction w with
  | nil => rw [List.nil_append, splitPath]
  | cons c w ih =>
    simp only [List.mem_cons, not_or] at h
    rw [List.cons_append, splitPath, ih h.2]
    · rfl
    · rintro s' rfl
      exact absurd rfl h.1

/-- A path comes apart into the parts it was put together from. -/
theorem splitPath_joinPath {parts : List (List Char)} (hne : parts ≠ [])
    (h : ∀ w ∈ parts, ':' ∉ w) : splitPath (joinPath parts) = parts := by
  induction parts with
  | nil => exact absurd rfl hne
  | cons w ws ih =>
    have hw : ':' ∉ w := h w (by simp)
    by_cases hws : ws = []
    · subst hws
      simpa [joinPath] using splitPath_of_not_mem hw
    · rw [joinPath_cons hws, splitPath_append hw, ih hws fun v hv => h v (by simp [hv])]

theorem dotted_joinPath {parts : List (List Char)} (h : ∀ w ∈ parts, ':' ∉ w) :
    dotted (joinPath parts) = joinDots parts := by
  by_cases hne : parts = []
  · subst hne
    rfl
  · rw [← joinDots_splitPath, splitPath_joinPath hne h]

theorem joinDots_concat {ws : List (List Char)} (h : ws ≠ []) (w : List Char) :
    joinDots (ws ++ [w]) = joinDots ws ++ '.' :: w := by
  rw [joinDots, intercalate_append '.' h (by simp), List.intercalate_singleton]
  rfl

/-! ### The ends of joined texts -/

section

variable {sep : List Char} {parts : List (List Char)}

/-- Whatever is joined, each character is from a separator or from one of the parts. -/
theorem mem_intercalate {c : Char} (h : c ∈ sep.intercalate parts) :
    c ∈ sep ∨ ∃ w ∈ parts, c ∈ w := by
  induction parts with
  | nil => simp at h
  | cons w ws ih =>
    cases ws with
    | nil => exact .inr ⟨w, by simp, by simpa using h⟩
    | cons v vs =>
      rw [List.intercalate_cons_cons, List.mem_append, List.mem_append] at h
      rcases h with (h | h) | h
      · exact .inr ⟨w, by simp, h⟩
      · exact .inl h
      · refine (ih h).imp_right ?_
        rintro ⟨u, hu, hc⟩
        exact ⟨u, List.mem_cons_of_mem w hu, hc⟩

/-- A character that is in no separator is in the joined text if it is in one of the parts. -/
theorem mem_intercalate_iff {c : Char} (hsep : c ∉ sep) :
    c ∈ sep.intercalate parts ↔ ∃ w ∈ parts, c ∈ w := by
  induction parts with
  | nil => simp
  | cons w ws ih =>
    cases ws with
    | nil => simp
    | cons v vs =>
      rw [List.intercalate_cons_cons, List.mem_append, List.mem_append, ih]
      simp [hsep]

/-- Parts that are not empty begin the joined text. -/
theorem mem_of_head?_intercalate (h : ∀ w ∈ parts, w ≠ []) :
    ∀ c ∈ (sep.intercalate parts).head?, ∃ w ∈ parts, c ∈ w := by
  intro c hc
  cases parts with
  | nil => simp at hc
  | cons w ws =>
    refine ⟨w, by simp, List.mem_of_mem_head? ?_⟩
    have hw : w ≠ [] := h w (by simp)
    cases ws with
    | nil => simpa using hc
    | cons v vs =>
      rwa [List.intercalate_cons_cons, List.append_assoc, List.head?_append_of_ne_nil _ hw] at hc

theorem intercalate_ne_nil (hne : parts ≠ []) (h : ∀ w ∈ parts, w ≠ []) :
    sep.intercalate parts ≠ [] := by
  obtain ⟨w, ws, rfl⟩ := List.exists_cons_of_ne_nil hne
  have hw : w ≠ [] := h w (by simp)
  cases ws with
  | nil => simpa using hw
  | cons v vs => simp [List.intercalate_cons_cons, hw]

/-- Parts that are not empty end the joined text. -/
theorem mem_of_getLast?_intercalate (h : ∀ w ∈ parts, w ≠ []) :
    ∀ c ∈ (sep.intercalate parts).getLast?, ∃ w ∈ parts, c ∈ w := by
  induction parts with
  | nil => simp
  | cons w ws ih =>
    intro c hc
    cases ws with
    | nil => exact ⟨w, by simp, List.mem_of_mem_getLast? (by simpa using hc)⟩
    | cons v vs =>
      have hrest : ∀ u ∈ v :: vs, u ≠ [] := fun u hu => h u (List.mem_cons_of_mem w hu)
      rw [List.intercalate_cons_cons,
        List.getLast?_append_of_ne_nil _ (intercalate_ne_nil (by simp) hrest)] at hc
      obtain ⟨u, hu, hcu⟩ := ih hrest c hc
      exact ⟨u, List.mem_cons_of_mem w hu, hcu⟩

end

end LoggerTree.Text
