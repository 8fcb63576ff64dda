import LoggerTree.Name
import LoggerTree.Proofs.Text

/-! # The tree of names

    Two algorithms speak of the names above a name. **Climbing** cuts at the last dot again and
    again, which gives the lineage. **Matching** tests whether a text is a start of the name that
    ends where a part of it ends.

    Main statements: both say the same (`mem_lineage_iff`), and going up the lineage the names get
    strictly shorter (`lineage_pairwise_byteLength`).
-/

namespace LoggerTree

namespace Name

/-! ### Matching -/

/-- A name lies within a text if the text is empty, is the name, or is followed in it by a dot. -/
theorem isWithin_iff {n : Name} {outer : List Char} :
    n.isWithin outer = true ↔
      outer = [] ∨ n.chars = outer ∨ ∃ rest, n.chars = outer ++ '.' :: rest := by
  cases outer with
  | nil => simp [isWithin]
  | cons d outer =>
    cases h : Text.after? (d :: outer) n.chars with
    | none =>
      have hnot : ∀ rest, n.chars ≠ (d :: outer) ++ rest := by
        intro rest heq
        rw [Text.after?_eq_some_iff.2 heq] at h
        exact absurd h (by simp)
      have hself : n.chars ≠ d :: outer := by simpa using hnot []
      simp only [isWithin, h, Bool.false_eq_true, reduceCtorEq, false_or, false_iff, not_or,
        not_exists]
      exact ⟨hself, fun rest => hnot ('.' :: rest)⟩
    | some rest =>
      have heq : n.chars = (d :: outer) ++ rest := Text.after?_eq_some_iff.1 h
      rw [heq]
      cases rest <;> simp [isWithin, h]

@[simp] theorem isWithin_self (n : Name) : n.isWithin n.chars = true :=
  isWithin_iff.2 (.inr (.inl rfl))

@[simp] theorem isWithin_root (n : Name) : n.isWithin root.chars = true :=
  isWithin_iff.2 (.inl rfl)

/-- A name is longer than the other names it lies within. -/
theorem byteLength_lt_of_isWithin {n m : Name} (h : n.isWithin m.chars = true) (ne : m ≠ n) :
    Text.byteLength m.chars < Text.byteLength n.chars := by
  rcases isWithin_iff.1 h with hroot | hself | ⟨rest, heq⟩
  · have hn : n.chars ≠ [] := by
      intro hn
      exact ne (by cases m; cases n; simp_all)
    rw [hroot]
    exact Text.byteLength_pos hn
  · exact absurd (by cases m; cases n; simp_all) ne
  · rw [heq, Text.byteLength_append]
    have := Text.byteLength_pos (s := '.' :: rest) (by simp)
    omega

theorem ne_root_of_byteLength_lt {n : Name} {k : Nat} (h : k < Text.byteLength n.chars) :
    n ≠ root := by
  rintro rfl
  exact absurd h (Nat.not_lt_zero k)

/-! ### Climbing -/

theorem parent?_eq_none_iff {n : Name} : n.parent? = none ↔ n = root := by
  simp [parent?]

/-- Besides the name itself, a name lies within exactly what its parent lies within. -/
theorem isWithin_iff_of_parent? {n p : Name} (h : n.parent? = some p) {outer : List Char} :
    n.isWithin outer = true ↔ outer = n.chars ∨ p.isWithin outer = true := by
  have hroot : n.isRoot = false := by
    by_contra hr
    rw [parent?, if_pos (by simpa using hr)] at h
    exact absurd h (by simp)
  rw [parent?, if_neg (by simp [hroot]), Option.some.injEq] at h
  subst h
  rw [isWithin_iff, isWithin_iff]
  cases hl : Text.beforeLast? '.' n.chars with
  | none =>
    -- Without a dot the parent is the root, which lies within the empty text only.
    have hnot : '.' ∉ n.chars := Text.beforeLast?_eq_none_iff.1 hl
    have hcut : ∀ rest, n.chars ≠ outer ++ '.' :: rest := by
      intro rest heq
      exact hnot (by rw [heq]; simp)
    simp only [Option.getD_none]
    constructor
    · rintro (h | h | ⟨rest, h⟩)
      · exact .inr (.inl h)
      · exact .inl h.symm
      · exact absurd h (hcut rest)
    · rintro (h | h | h | ⟨rest, h⟩)
      · exact .inr (.inl h.symm)
      · exact .inl h
      · exact .inl h.symm
      · simp at h
  | some l =>
    obtain ⟨r, heq, hr⟩ := Text.eq_of_beforeLast?_eq_some hl
    simp only [Option.getD_some]
    constructor
    · rintro (h | h | ⟨rest, h⟩)
      · exact .inr (.inl h)
      · exact .inl h.symm
      · -- The dot after `outer` is the last one of the name or one before it.
        rw [heq] at h
        rcases List.append_eq_append_iff.1 h with ⟨a, rfl, ha⟩ | ⟨a, rfl, ha⟩
        · cases a with
          | nil => exact .inr (.inr (.inl (by simp)))
          | cons c a =>
            simp only [List.cons_append, List.cons.injEq] at ha
            exact absurd (by rw [ha.2]; simp) hr
        · cases a with
          | nil => exact .inr (.inr (.inl (by simp)))
          | cons c a =>
            simp only [List.cons_append, List.cons.injEq] at ha
            exact .inr (.inr (.inr ⟨a, by rw [← ha.1]⟩))
    · rintro (h | h | h | ⟨rest, h⟩)
      · exact .inr (.inl h.symm)
      · exact .inl h
      · exact .inr (.inr ⟨r, by rw [heq, h]⟩)
      · exact .inr (.inr ⟨rest ++ '.' :: r, by rw [heq, h]; simp⟩)

theorem lineage_of_parent?_eq_none {n : Name} (h : n.parent? = none) : n.lineage = [n] := by
  rw [lineage]
  split
  · rfl
  · next p hp => rw [h] at hp; exact absurd hp (by simp)

theorem lineage_of_parent?_eq_some {n p : Name} (h : n.parent? = some p) :
    n.lineage = n :: p.lineage := by
  rw [lineage]
  split
  · next hp => rw [h] at hp; exact absurd hp (by simp)
  · next q hq => rw [h] at hq; cases hq; rfl

/-- **Climbing and matching agree**: a name lies within those of its lineage and no others. -/
theorem mem_lineage_iff {n m : Name} : m ∈ n.lineage ↔ n.isWithin m.chars = true := by
  fun_induction lineage n with
  | case1 n h =>
    obtain rfl := parent?_eq_none_iff.1 h
    rw [List.mem_singleton, isWithin_iff]
    cases m
    simp [root, eq_comm]
  | case2 n p h ih =>
    rw [List.mem_cons, ih, isWithin_iff_of_parent? h]
    cases m
    cases n
    simp

theorem root_mem_lineage (n : Name) : root ∈ n.lineage :=
  mem_lineage_iff.2 (isWithin_root n)

/-- Going up, the names get strictly shorter. -/
theorem lineage_pairwise_byteLength (n : Name) :
    n.lineage.Pairwise fun a b => Text.byteLength b.chars < Text.byteLength a.chars := by
  fun_induction lineage n with
  | case1 n h => simp
  | case2 n p h ih =>
    refine List.pairwise_cons.2 ⟨?_, ih⟩
    intro m hm
    have hwithin : n.isWithin m.chars = true :=
      (isWithin_iff_of_parent? h).2 (.inr (mem_lineage_iff.1 hm))
    apply byteLength_lt_of_isWithin hwithin
    -- The name itself is longer than its parent, so it does not lie above it.
    rintro rfl
    have hle : m.chars.length ≤ p.chars.length := by
      rcases isWithin_iff.1 (mem_lineage_iff.1 hm) with hs | hs | ⟨rest, hs⟩ <;> simp [hs]
    have hlt := length_parent?_lt h
    omega

/-- Where only shorter names of a lineage than `m` have a value besides `m` itself, the value of
    `m` is the first one met on the way up. -/
theorem findSome?_lineage {α : Type} {f : Name → Option α} {n m : Name} {a : α}
    (hm : m ∈ n.lineage) (hf : f m = some a)
    (hlonger : ∀ x ∈ n.lineage,
      Text.byteLength m.chars < Text.byteLength x.chars → f x = none) :
    n.lineage.findSome? f = some a := by
  have hsorted := lineage_pairwise_byteLength n
  obtain ⟨below, above, heq⟩ := List.append_of_mem hm
  rw [heq] at hsorted hlonger ⊢
  -- The names met before `m` are the longer ones.
  refine List.findSome?_eq_some_iff.2 ⟨below, m, above, rfl, hf, ?_⟩
  intro x hx
  exact hlonger x (by simp [hx]) ((List.pairwise_append.1 hsorted).2.2 x hx m (by simp))

end Name

end LoggerTree
