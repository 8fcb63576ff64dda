import LoggerTree.Proofs.Directives.Rules
import Mathlib.Data.List.Basic

/-! # Looking up a threshold

    What directives answer is fixed by the assignments alone: of the names on the way up from a
    logger name, the first one that was ever assigned to decides, with its last assignment. The
    root counts as assigned to from the start.

    Main statement: `threshold_by_lineage`. Neither the order of assignments to different names
    nor any assignment to a name outside the lineage plays a part.
-/

namespace LoggerTree.Directives

theorem given?_assignAll_plain (start : Threshold) (as : List Assignment) :
    (({ fallback := start } : Directives).assignAll as).given? =
      lastAssigned? ((.root, start) :: as) := by
  funext n
  rw [given?_assignAll, lastAssigned?_cons]
  by_cases hn : n = .root
  · subst hn
    simp
  · rw [given?_of_ne_root hn, if_neg (Ne.symm hn)]
    rfl

/-- Assignments to other names do not count. -/
theorem lastAssigned?_congr {as bs : List Assignment} {n : Name}
    (h : bs.filter (·.1 = n) = as.filter (·.1 = n)) :
    lastAssigned? bs n = lastAssigned? as n := by
  unfold lastAssigned?
  rw [h]

/-- The climb that decides a threshold, for assignments on top of a fallback. -/
theorem findSome?_lastAssigned? (start : Threshold) (as : List Assignment) (n : Name) :
    n.lineage.findSome? (lastAssigned? ((.root, start) :: as)) =
      some ((({ fallback := start } : Directives).assignAll as).threshold n) := by
  rw [← given?_assignAll_plain]
  exact ((wellFormed_plain start).assignAll as).findSome?_given? n

/-- **The threshold of a name is the last one given to the first name of its lineage that was
    given any.** So assignments matter only for the names in the lineage, and only in their order
    for each name. Written directives are the assignments that their pieces ask for, on top of
    letting everything pass. -/
theorem threshold_by_lineage (start : Threshold) (as : List Assignment) (n : Name) :
    n.lineage.findSome? (lastAssigned? ((.root, start) :: as)) =
        some ((({ fallback := start } : Directives).assignAll as).threshold n) ∧
      (∀ bs : List Assignment,
        (∀ m ∈ n.lineage, bs.filter (·.1 = m) = as.filter (·.1 = m)) →
        (({ fallback := start } : Directives).assignAll bs).threshold n =
          (({ fallback := start } : Directives).assignAll as).threshold n) ∧
      (∀ (s : List Char) (d : Directives), parse s = .ok d →
        ∃ cs, readPieces (pieces s) = .ok cs ∧
          n.lineage.findSome? (lastAssigned? ((.root, .atLeast .trace) :: cs)) =
            some (d.threshold n)) := by
  refine ⟨findSome?_lastAssigned? start as n, ?_, ?_⟩
  · intro bs h
    -- Both climbs meet the same values, name by name.
    have hsame : n.lineage.findSome? (lastAssigned? ((.root, start) :: bs)) =
        n.lineage.findSome? (lastAssigned? ((.root, start) :: as)) := by
      rw [← List.head?_filterMap, ← List.head?_filterMap]
      congr 1
      apply List.filterMap_congr
      intro m hm
      apply lastAssigned?_congr
      rw [List.filter_cons, List.filter_cons, h m hm]
    rw [findSome?_lastAssigned?, findSome?_lastAssigned?] at hsame
    exact Option.some.inj hsame
  · intro s d h
    obtain ⟨cs, hcs, rfl⟩ := exists_assignments_of_parse h
    exact ⟨cs, hcs, findSome?_lastAssigned? (.atLeast .trace) cs n⟩

/-- A rule for `a.bx` and the place of the one for `a` do not matter to `a.b.c`; of two rules
    for `a.b` the later one does. -/
theorem threshold_by_lineage_of_sibling :
    let name : String → Name := Name.ofString
    let given : List Assignment := [(name "a.b", .off), (name "a", .atLeast .warn),
      (name "a.bx", .off), (name "a.b", .atLeast .debug)]
    let moved : List Assignment := [(name "a.b", .off), (name "a.b", .atLeast .debug),
      (name "a", .atLeast .warn)]
    (({ fallback := .off } : Directives).assignAll moved).threshold (name "a.b.c") =
        (({ fallback := .off } : Directives).assignAll given).threshold (name "a.b.c") ∧
      ∃ cs, readPieces (pieces "warn, a.b=info".toList) = .ok cs ∧
        (name "a.b.c").lineage.findSome? (lastAssigned? ((.root, .atLeast .trace) :: cs)) =
          some (.atLeast .info) := by
  intro name given moved
  have law := threshold_by_lineage .off given (name "a.b.c")
  refine ⟨law.2.1 moved ?_, ?_⟩
  · intro m hm
    have hne : name "a.bx" ≠ m := by
      rintro rfl
      exact absurd (Name.mem_lineage_iff.1 hm) (by decide)
    by_cases hb : name "a.b" = m
    · have ha : name "a" ≠ m := by
        rintro rfl
        exact absurd hb (by decide)
      simp [given, moved, hb, ha, hne]
    · simp [given, moved, List.filter_cons, hb, hne]
  · exact law.2.2 "warn, a.b=info".toList
      ⟨.atLeast .warn, [⟨name "a.b", .atLeast .info⟩]⟩ rfl

end LoggerTree.Directives
