import LoggerTree.Directives.Text
import LoggerTree.Proofs.Name.Lineage

/-! # Rules and assignments

    Directives keep their rules in a list. Seen from outside, that list is a partial map from
    names to thresholds, `given?`, which says what a name has been given for itself.

    Main statements: every assignment keeps the list in order, with one rule a name and none for
    the root (`WellFormed.assign`), and changes the map at its own name only (`given?_assign`).
    In a list in order, asking for a threshold is a walk up the lineage (`findSome?_given?`).
-/

namespace LoggerTree.Directives

/-! ### Reading a text into assignments -/

theorem exists_of_map_eq_ok {ε α β : Type} {f : α → β} {x : Except ε α} {b : β}
    (h : x.map f = .ok b) : ∃ a, x = .ok a ∧ f a = b := by
  cases x with
  | error e => exact absurd h (by simp [Except.map])
  | ok a => exact ⟨a, rfl, by simpa [Except.map] using h⟩

/-- Reading ends in the assignments of the pieces, on top of letting everything pass. -/
theorem exists_assignments_of_parse {s : List Char} {d : Directives} (h : parse s = .ok d) :
    ∃ as, readPieces (pieces s) = .ok as ∧ ({} : Directives).assignAll as = d :=
  exists_of_map_eq_ok h

/-! ### Order of the rules -/

/-- The order that assignments keep. -/
structure WellFormed (d : Directives) : Prop where
  /-- No rule comes before one with a longer name. -/
  sorted : d.rules.Pairwise fun r s =>
    Text.byteLength s.name.chars ≤ Text.byteLength r.name.chars
  /-- No name has two rules. -/
  distinct : d.rules.Pairwise fun r s => r.name ≠ s.name
  /-- The root has no rule, since the fallback is its threshold. -/
  not_root : ∀ r ∈ d.rules, r.name ≠ .root

theorem perm_place (r : Rule) (rules : List Rule) : (place r rules).Perm (r :: rules) := by
  induction rules with
  | nil => exact .refl _
  | cons s rules ih =>
    rw [place]
    split
    · exact .refl _
    · exact (ih.cons s).trans (.swap r s rules)

/-- A rule is placed between those that are at least as long and those that are shorter, so it
    fits into every order that is in keeping with that. -/
theorem pairwise_place {R : Rule → Rule → Prop} {r : Rule} {rules : List Rule}
    (h : rules.Pairwise R)
    (sorted : rules.Pairwise fun r s =>
      Text.byteLength s.name.chars ≤ Text.byteLength r.name.chars)
    (before : ∀ s ∈ rules,
      Text.byteLength r.name.chars ≤ Text.byteLength s.name.chars → R s r)
    (after : ∀ s ∈ rules,
      Text.byteLength s.name.chars < Text.byteLength r.name.chars → R r s) :
    (place r rules).Pairwise R := by
  induction rules with
  | nil => simp [place]
  | cons s rules ih =>
    obtain ⟨hs, hrules⟩ := List.pairwise_cons.1 h
    obtain ⟨hlonger, hsorted⟩ := List.pairwise_cons.1 sorted
    rw [place]
    split
    · next hlt =>
      -- All that follows is no longer than the first shorter rule.
      refine List.pairwise_cons.2 ⟨?_, h⟩
      intro t ht
      apply after t ht
      rcases List.mem_cons.1 ht with rfl | ht
      · exact hlt
      · exact Nat.lt_of_le_of_lt (hlonger t ht) hlt
    · next hle =>
      refine List.pairwise_cons.2 ⟨?_, ih hrules hsorted
        (fun t ht => before t (by simp [ht])) fun t ht => after t (by simp [ht])⟩
      intro t ht
      rcases mem_place.1 ht with rfl | ht
      · exact before s (by simp) (Nat.le_of_not_lt hle)
      · exact hs t ht

theorem sorted_place (r : Rule) {rules : List Rule}
    (h : rules.Pairwise fun r s =>
      Text.byteLength s.name.chars ≤ Text.byteLength r.name.chars) :
    (place r rules).Pairwise fun r s =>
      Text.byteLength s.name.chars ≤ Text.byteLength r.name.chars :=
  pairwise_place h h (fun _ _ hle => hle) fun _ _ hlt => Nat.le_of_lt hlt

/-- A rule goes to the end of rules that are all at least as long. -/
theorem place_eq_append {r : Rule} {rules : List Rule}
    (h : ∀ s ∈ rules, Text.byteLength r.name.chars ≤ Text.byteLength s.name.chars) :
    place r rules = rules ++ [r] := by
  induction rules with
  | nil => rfl
  | cons s rules ih =>
    have hs := h s (by simp)
    rw [place, if_neg (by omega), ih fun t ht => h t (by simp [ht])]
    rfl

theorem wellFormed_plain (t : Threshold) : WellFormed { fallback := t } :=
  ⟨.nil, .nil, by simp⟩

/-- Every assignment keeps the order. -/
theorem WellFormed.assign {d : Directives} (h : d.WellFormed) (n : Name) (t : Threshold) :
    (d.assign n t).WellFormed := by
  by_cases hn : n.isRoot = true
  · rw [Directives.assign, if_pos hn]
    exact ⟨h.sorted, h.distinct, h.not_root⟩
  · rw [Directives.assign, if_neg hn]
    have hothers : ∀ r ∈ d.rules.filter (·.name ≠ n), n ≠ r.name := by
      intro r hr
      exact Ne.symm (by simpa using (List.mem_filter.1 hr).2)
    refine ⟨?_, ?_, ?_⟩
    · exact sorted_place _ (h.sorted.filter _)
    · -- To have different names does not depend on the order of the rules.
      rw [(perm_place _ _).pairwise_iff fun hne => Ne.symm hne]
      exact List.pairwise_cons.2 ⟨hothers, h.distinct.filter _⟩
    · intro r hr
      rcases mem_place.1 hr with rfl | hr
      · simpa using hn
      · exact h.not_root r (List.mem_filter.1 hr).1

/-- A run of assignments keeps the order. -/
theorem WellFormed.assignAll {d : Directives} (h : d.WellFormed) (as : List Assignment) :
    (d.assignAll as).WellFormed := by
  induction as generalizing d with
  | nil => exact h
  | cons a as ih => exact ih (h.assign a.1 a.2)

/-! ### What a name has been given -/

/-- The threshold that a name has been given for itself. The root always has one. -/
def given? (d : Directives) (n : Name) : Option Threshold :=
  if n.isRoot then some d.fallback else (d.rules.find? (·.name = n)).map (·.threshold)

@[simp] theorem given?_root (d : Directives) : d.given? .root = some d.fallback := by
  simp [given?]

theorem given?_of_ne_root {d : Directives} {n : Name} (h : n ≠ .root) :
    d.given? n = (d.rules.find? (·.name = n)).map (·.threshold) := by
  rw [given?, if_neg (by simpa using h)]

/-- A name without a rule has been given nothing. -/
theorem given?_eq_none {d : Directives} {n : Name} (hn : n ≠ .root)
    (h : ∀ r ∈ d.rules, r.name ≠ n) : d.given? n = none := by
  rw [given?_of_ne_root hn, Option.map_eq_none_iff, List.find?_eq_none]
  intro r hr
  simpa using h r hr

/-- Among rules in order, a rule gives its name its threshold. -/
theorem WellFormed.given?_of_mem {d : Directives} (h : d.WellFormed) {r : Rule}
    (hr : r ∈ d.rules) : d.given? r.name = some r.threshold := by
  rw [given?_of_ne_root (h.not_root r hr)]
  obtain ⟨before, after, heq⟩ := List.append_of_mem hr
  have hbefore : ∀ s ∈ before, s.name ≠ r.name := by
    intro s hs
    have hdistinct := h.distinct
    rw [heq] at hdistinct
    exact (List.pairwise_append.1 hdistinct).2.2 s hs r (by simp)
  rw [show d.rules.find? (·.name = r.name) = some r from
    List.find?_eq_some_iff_append.2 ⟨by simp, before, after, heq, by simpa using hbefore⟩]
  rfl

theorem find?_place_of_not {p : Rule → Bool} {r : Rule} (hr : p r = false)
    (rules : List Rule) : (place r rules).find? p = rules.find? p := by
  induction rules with
  | nil => simp [place, hr]
  | cons s rules ih =>
    rw [place]
    split
    · rw [List.find?_cons_of_neg (by simp [hr])]
    · rw [List.find?_cons, List.find?_cons, ih]

theorem find?_place_of_only {p : Rule → Bool} {r : Rule} (hr : p r = true) {rules : List Rule}
    (hrules : ∀ s ∈ rules, p s = false) : (place r rules).find? p = some r := by
  induction rules with
  | nil => simp [place, hr]
  | cons s rules ih =>
    rw [place]
    split
    · rw [List.find?_cons_of_pos hr]
    · rw [List.find?_cons_of_neg (by simp [hrules s (by simp)])]
      exact ih fun t ht => hrules t (by simp [ht])

/-- **An assignment changes what its own name has been given**, and nothing else. -/
theorem given?_assign (d : Directives) (n m : Name) (t : Threshold) :
    (d.assign n t).given? m = if m = n then some t else d.given? m := by
  by_cases hn : n = .root
  · subst hn
    rw [assign_root]
    by_cases hm : m = .root
    · simp [hm]
    · rw [if_neg hm, given?_of_ne_root hm, given?_of_ne_root hm]
  · have hassign : d.assign n t =
        { d with rules := place ⟨n, t⟩ (d.rules.filter (·.name ≠ n)) } := by
      rw [assign, if_neg (by simpa using hn)]
    rw [hassign]
    by_cases hm : m = n
    · subst hm
      rw [if_pos rfl, given?_of_ne_root hn]
      -- The old rule of the name has been filtered out, so the new one is the only match.
      rw [find?_place_of_only (by simp) (by simp)]
      rfl
    · rw [if_neg hm]
      by_cases hroot : m = .root
      · simp [hroot]
      · -- The search for `m` passes over the new rule, and over the old one for `n`.
        rw [given?_of_ne_root hroot, given?_of_ne_root hroot]
        rw [find?_place_of_not (by simpa using Ne.symm hm), List.find?_filter]
        congr 2
        funext s
        by_cases hs : s.name = m
        · simp [hs, hm]
        · simp [hs]

/-- The threshold of the last assignment to a name. -/
def lastAssigned? (as : List Assignment) (n : Name) : Option Threshold :=
  (as.filter (·.1 = n)).getLast?.map (·.2)

theorem lastAssigned?_cons (a : Assignment) (as : List Assignment) (n : Name) :
    lastAssigned? (a :: as) n =
      (lastAssigned? as n).or (if a.1 = n then some a.2 else none) := by
  unfold lastAssigned?
  by_cases ha : a.1 = n
  · simp only [ha, decide_true, List.filter_cons_of_pos, ↓reduceIte]
    rw [List.getLast?_cons]
    cases (as.filter (·.1 = n)).getLast? <;> rfl
  · simp [ha]

/-- After a run of assignments a name has what the last one gave it. -/
theorem given?_assignAll (d : Directives) (as : List Assignment) (n : Name) :
    (d.assignAll as).given? n = (lastAssigned? as n).or (d.given? n) := by
  induction as generalizing d with
  | nil => simp [lastAssigned?]
  | cons a as ih =>
    rw [assignAll_cons, ih, given?_assign, lastAssigned?_cons, Option.or_assoc]
    by_cases ha : a.1 = n
    · simp [ha]
    · simp [ha, Ne.symm ha]

/-- A rule that is there after a run was there before, or its name has been assigned to. -/
theorem name_mem_of_mem_assignAll {d : Directives} {as : List Assignment} {r : Rule}
    (h : r ∈ (d.assignAll as).rules) : r ∈ d.rules ∨ r.name ∈ as.map (·.1) := by
  induction as generalizing d with
  | nil => exact .inl h
  | cons a as ih =>
    rw [assignAll_cons] at h
    rcases ih h with hr | hr
    · rw [assign] at hr
      split at hr
      · exact .inl hr
      · rcases mem_place.1 hr with rfl | hr
        · exact .inr (by simp)
        · exact .inl (List.mem_filter.1 hr).1
    · exact .inr (by simp [hr])

/-! ### Asking is climbing -/

/-- In a list in order, the first rule that matches a name is the first one met on the way up
    the lineage of that name. -/
theorem WellFormed.findSome?_given? {d : Directives} (h : d.WellFormed) (n : Name) :
    n.lineage.findSome? d.given? = some (d.threshold n) := by
  rw [threshold]
  cases hf : d.rules.find? fun r => n.isWithin r.name.chars with
  | none =>
    -- No name of the lineage has a rule, so the climb ends at the root.
    have hnone : ∀ r ∈ d.rules, n.isWithin r.name.chars = false := by
      simpa using hf
    apply Name.findSome?_lineage (Name.root_mem_lineage n) (given?_root d)
    intro x hx hlt
    apply given?_eq_none (Name.ne_root_of_byteLength_lt hlt)
    rintro r hr rfl
    have hwithin := Name.mem_lineage_iff.1 hx
    rw [hnone r hr] at hwithin
    exact absurd hwithin (by simp)
  | some r =>
    obtain ⟨hwithin, before, after, heq, hbefore⟩ := List.find?_eq_some_iff_append.1 hf
    have hr : r ∈ d.rules := by simp [heq]
    apply Name.findSome?_lineage (Name.mem_lineage_iff.2 hwithin) (h.given?_of_mem hr)
    intro x hx hlt
    apply given?_eq_none (Name.ne_root_of_byteLength_lt hlt)
    rintro s hs rfl
    -- A rule for a longer name of the lineage stands before `r`, and would have been found.
    have hsorted := h.sorted
    rw [heq] at hs hsorted
    rcases List.mem_append.1 hs with hs | hs
    · have hnot := hbefore s hs
      rw [Name.mem_lineage_iff.1 hx] at hnot
      exact absurd hnot (by simp)
    · rcases List.mem_cons.1 hs with rfl | hs
      · omega
      · have hle := (List.pairwise_cons.1 (List.pairwise_append.1 hsorted).2.1).1 s hs
        omega

end LoggerTree.Directives
