import LoggerTree.Proofs.Directives.Lookup
import LoggerTree.Proofs.Directives.Reading
import LoggerTree.Proofs.Directives.Written
import Mathlib.Data.List.Dedup
import Mathlib.Data.List.Induction

/-! # How directives are kept

    Directives are a list of rules and a fallback, and a run of assignments determines both: each
    name but the root has one rule, with what it was last given. Rules for longer names come first,
    and of two for names as long as each other the one that was given its threshold earlier.

    Main statement: `rules_represent_assignments`. Giving a name another threshold leaves no trace
    of the first, and assignments to names of different lengths may change places.
-/

namespace LoggerTree.Directives

attribute [ext] Rule Directives

/-! ### The order of the rules -/

/-- How many assignments have been made since the last one to a name. -/
def age (as : List Assignment) (n : Name) : Nat :=
  (as.map (·.1)).reverse.idxOf n

/-- A rule comes before another if its name is longer, or as long and its last assignment older. -/
def Precedes (as : List Assignment) (r s : Rule) : Prop :=
  Text.byteLength s.name.chars < Text.byteLength r.name.chars ∨
    Text.byteLength s.name.chars = Text.byteLength r.name.chars ∧ age as s.name < age as r.name

theorem age_concat (as : List Assignment) (n m : Name) (t : Threshold) :
    age (as ++ [(n, t)]) m = if m = n then 0 else age as m + 1 := by
  have hnames : ((as ++ [(n, t)]).map (·.1)).reverse = n :: (as.map (·.1)).reverse := by simp
  rw [age, hnames]
  by_cases hm : m = n
  · rw [if_pos hm, List.idxOf_cons_eq _ hm.symm]
  · rw [if_neg hm, List.idxOf_cons_ne _ (Ne.symm hm)]
    rfl

/-- Two rules of which neither has been touched by an assignment keep their order. -/
theorem Precedes.concat {as : List Assignment} {r s : Rule} (h : Precedes as r s) {n : Name}
    (hr : r.name ≠ n) (hs : s.name ≠ n) (t : Threshold) : Precedes (as ++ [(n, t)]) r s := by
  rw [Precedes, age_concat, age_concat, if_neg hr, if_neg hs]
  exact h.imp_right (And.imp_right Nat.succ_lt_succ)

theorem Precedes.asymm {as : List Assignment} {r s : Rule} (h : Precedes as r s) :
    ¬Precedes as s r := by
  unfold Precedes at h ⊢
  omega

/-- Every assignment keeps the order, with the rule that it makes as the youngest one. -/
theorem precedes_assign {d : Directives} (hd : d.WellFormed) {as : List Assignment}
    (h : d.rules.Pairwise (Precedes as)) (n : Name) (t : Threshold) :
    (d.assign n t).rules.Pairwise (Precedes (as ++ [(n, t)])) := by
  rw [assign]
  split
  · next hroot =>
    have hne : ∀ r ∈ d.rules, r.name ≠ n := by
      rw [Name.isRoot_iff.1 hroot]
      exact hd.not_root
    exact h.imp_of_mem fun hr hs hrs => hrs.concat (hne _ hr) (hne _ hs) t
  · have hne : ∀ r ∈ d.rules.filter (·.name ≠ n), r.name ≠ n := by simp
    refine pairwise_place ?_ (hd.sorted.filter _) ?_ ?_
    · exact (h.filter _).imp_of_mem fun hr hs hrs => hrs.concat (hne _ hr) (hne _ hs) t
    · -- Rules that are at least as long stay in front, being older than the new one.
      intro r hr hle
      rw [Precedes, age_concat, age_concat, if_pos rfl, if_neg (hne r hr)]
      omega
    · intro r _ hlt
      exact .inl hlt

/-! ### What the rules are -/

/-- Among rules in order, there is a rule for each threshold that a name but the root has been
    given, and no other one. -/
theorem WellFormed.mem_rules_iff {d : Directives} (h : d.WellFormed) {r : Rule} :
    r ∈ d.rules ↔ r.name ≠ .root ∧ d.given? r.name = some r.threshold := by
  constructor
  · intro hr
    exact ⟨h.not_root r hr, h.given?_of_mem hr⟩
  · rintro ⟨hroot, hgiven⟩
    rw [given?_of_ne_root hroot] at hgiven
    obtain ⟨s, hs, hthreshold⟩ := Option.map_eq_some_iff.1 hgiven
    have hname : s.name = r.name := by simpa using List.find?_some hs
    have hsame : s = r := Rule.ext hname hthreshold
    exact hsame ▸ List.mem_of_find?_eq_some hs

/-- What assignments on top of a fallback leave behind. -/
structure Represents (start : Threshold) (as : List Assignment) (d : Directives) : Prop where
  /-- Each name but the root that was ever assigned to has one rule, and no other name has any. -/
  names : (d.rules.map (·.name)).Perm ((as.map (·.1)).filter (· ≠ .root)).dedup
  /-- A rule has the threshold that was assigned last. -/
  thresholds : ∀ r ∈ d.rules, lastAssigned? as r.name = some r.threshold
  /-- Longer names come first, and of names as long as each other the one assigned to earlier. -/
  ordered : d.rules.Pairwise (Precedes as)
  /-- The fallback is what was last assigned to the root, or the one from the start. -/
  fallback : d.fallback = (lastAssigned? as .root).getD start
  size : d.size = ((as.map (·.1)).filter (· ≠ .root)).dedup.length
  /-- The written form lists the fallback and then the rules in their order. -/
  display : d.display = ",".intercalate
    (d.fallback.display :: d.rules.map fun r => r.name.toString ++ "=" ++ r.threshold.display)

theorem lastAssigned?_eq_none_iff {as : List Assignment} {n : Name} :
    lastAssigned? as n = none ↔ n ∉ as.map (·.1) := by
  rw [lastAssigned?, Option.map_eq_none_iff, List.getLast?_eq_none_iff, List.filter_eq_nil_iff]
  simp only [decide_eq_true_eq, List.mem_map, not_exists, not_and]

/-- What a name but the root has been given is what was last assigned to it. -/
theorem mem_rules_assignAll_iff {start : Threshold} {as : List Assignment} {r : Rule} :
    r ∈ (({ fallback := start } : Directives).assignAll as).rules ↔
      r.name ≠ .root ∧ lastAssigned? as r.name = some r.threshold := by
  rw [((wellFormed_plain start).assignAll as).mem_rules_iff]
  refine and_congr_right ?_
  intro hroot
  rw [given?_assignAll_plain, lastAssigned?_cons, if_neg (Ne.symm hroot), Option.or_none]

theorem names_assignAll_perm (start : Threshold) (as : List Assignment) :
    ((({ fallback := start } : Directives).assignAll as).rules.map (·.name)).Perm
      ((as.map (·.1)).filter (· ≠ .root)).dedup := by
  have hdistinct : ((({ fallback := start } : Directives).assignAll as).rules.map
      (·.name)).Nodup := by
    rw [List.Nodup, List.pairwise_map]
    exact ((wellFormed_plain start).assignAll as).distinct
  -- No name is in either list twice, so it is enough that they have the same names.
  rw [List.perm_ext_iff_of_nodup hdistinct (List.nodup_dedup _)]
  intro n
  rw [List.mem_dedup, List.mem_filter, List.mem_map]
  constructor
  · rintro ⟨r, hr, rfl⟩
    obtain ⟨hroot, hlast⟩ := mem_rules_assignAll_iff.1 hr
    refine ⟨?_, by simpa using hroot⟩
    by_contra hnot
    rw [lastAssigned?_eq_none_iff.2 hnot] at hlast
    cases hlast
  · rintro ⟨hmem, hroot⟩
    cases hlast : lastAssigned? as n with
    | none => exact absurd hmem (lastAssigned?_eq_none_iff.1 hlast)
    | some t => exact ⟨⟨n, t⟩, mem_rules_assignAll_iff.2 ⟨by simpa using hroot, hlast⟩, rfl⟩

theorem ordered_assignAll (start : Threshold) (as : List Assignment) :
    (({ fallback := start } : Directives).assignAll as).rules.Pairwise (Precedes as) := by
  -- Ages are counted from the end, so this is where the run grows.
  induction as using List.reverseRecOn with
  | nil => exact .nil
  | append_singleton as a ih =>
    rw [assignAll_append]
    exact precedes_assign ((wellFormed_plain start).assignAll as) ih a.1 a.2

theorem fallback_assignAll (start : Threshold) (as : List Assignment) :
    (({ fallback := start } : Directives).assignAll as).fallback =
      (lastAssigned? as .root).getD start := by
  have hgiven := given?_root (({ fallback := start } : Directives).assignAll as)
  rw [given?_assignAll_plain, lastAssigned?_cons, if_pos rfl] at hgiven
  cases hlast : lastAssigned? as .root with
  | none =>
    rw [hlast] at hgiven
    exact (Option.some.inj hgiven).symm
  | some t =>
    rw [hlast] at hgiven
    exact (Option.some.inj hgiven).symm

theorem display_eq (d : Directives) : d.display = ",".intercalate
    (d.fallback.display :: d.rules.map fun r =>
      r.name.toString ++ "=" ++ r.threshold.display) := by
  rw [← String.toList_inj, String.toList_intercalate, display, String.toList_ofList, displayChars]
  congr 1
  simp [displayRule, Name.toString, Threshold.display]

/-- A run of assignments leaves behind what it represents. -/
theorem represents_assignAll (start : Threshold) (as : List Assignment) :
    Represents start as (({ fallback := start } : Directives).assignAll as) where
  names := names_assignAll_perm start as
  thresholds := fun _ hr => (mem_rules_assignAll_iff.1 hr).2
  ordered := ordered_assignAll start as
  fallback := fallback_assignAll start as
  size := by
    rw [← (names_assignAll_perm start as).length_eq, List.length_map]
    rfl
  display := display_eq _

namespace Represents

variable {start : Threshold} {as : List Assignment} {d e : Directives}

theorem mem_rules_iff (h : Represents start as d) {r : Rule} :
    r ∈ d.rules ↔ r.name ∈ (as.map (·.1)).filter (· ≠ .root) ∧
      lastAssigned? as r.name = some r.threshold := by
  have hnames : r.name ∈ d.rules.map (·.name) ↔
      r.name ∈ (as.map (·.1)).filter (· ≠ .root) := by
    rw [h.names.mem_iff, List.mem_dedup]
  rw [← hnames]
  constructor
  · intro hr
    exact ⟨List.mem_map_of_mem hr, h.thresholds r hr⟩
  · rintro ⟨hname, hlast⟩
    obtain ⟨s, hs, hsame⟩ := List.mem_map.1 hname
    have hthreshold := h.thresholds s hs
    rw [hsame, hlast] at hthreshold
    have hrule : s = r := Rule.ext hsame (Option.some.inj hthreshold).symm
    exact hrule ▸ hs

theorem nodup (h : Represents start as d) : d.rules.Nodup := by
  refine h.ordered.imp ?_
  rintro r s hrs rfl
  exact hrs.asymm hrs

/-- Nothing is left open: the same assignments represent no other directives. -/
theorem unique (hd : Represents start as d) (he : Represents start as e) : d = e := by
  have hperm : d.rules.Perm e.rules := by
    rw [List.perm_ext_iff_of_nodup hd.nodup he.nodup]
    intro r
    rw [hd.mem_rules_iff, he.mem_rules_iff]
  -- The order is strict, so it leaves the same rules only one arrangement.
  have hrules : d.rules = e.rules :=
    hperm.eq_of_pairwise (fun r s _ _ hrs hsr => absurd hsr hrs.asymm) hd.ordered he.ordered
  have hfallback : d.fallback = e.fallback := by rw [hd.fallback, he.fallback]
  exact Directives.ext hfallback hrules

end Represents

/-! ### Assigning twice -/

theorem filter_place_of_not {p : Rule → Bool} {r : Rule} (hr : p r = false) (rules : List Rule) :
    (place r rules).filter p = rules.filter p := by
  induction rules with
  | nil => simp [place, hr]
  | cons s rules ih =>
    rw [place]
    split
    · rw [List.filter_cons_of_neg (by simp [hr])]
    · rw [List.filter_cons, List.filter_cons, ih]

/-- In a list in order, it does not matter whether other rules go before or after a rule is
    placed. -/
theorem filter_place {p : Rule → Bool} {r : Rule} (hr : p r = true) {rules : List Rule}
    (sorted : rules.Pairwise fun r s =>
      Text.byteLength s.name.chars ≤ Text.byteLength r.name.chars) :
    (place r rules).filter p = place r (rules.filter p) := by
  induction rules with
  | nil => simp [place, hr]
  | cons s rules ih =>
    obtain ⟨hlonger, hsorted⟩ := List.pairwise_cons.1 sorted
    rw [place]
    split
    · next hlt =>
      -- What stays of the shorter rules has the new one right in front of it.
      rw [List.filter_cons_of_pos hr]
      have hshorter : ∀ t ∈ (s :: rules).filter p,
          Text.byteLength t.name.chars < Text.byteLength r.name.chars := by
        intro t ht
        rcases List.mem_cons.1 (List.mem_filter.1 ht).1 with rfl | ht
        · exact hlt
        · exact Nat.lt_of_le_of_lt (hlonger t ht) hlt
      cases hrest : (s :: rules).filter p with
      | nil => rfl
      | cons t others => rw [place, if_pos (hshorter t (by simp [hrest]))]
    · next hle =>
      rw [List.filter_cons, List.filter_cons, ih hsorted]
      split
      · rw [place, if_neg hle]
      · rfl

/-- Rules for names of different lengths find the same places, whichever is placed first. -/
theorem place_place {r s : Rule}
    (h : Text.byteLength r.name.chars ≠ Text.byteLength s.name.chars) (rules : List Rule) :
    place r (place s rules) = place s (place r rules) := by
  induction rules with
  | nil =>
    rcases Nat.lt_or_gt_of_ne h with hlt | hgt
    · simp [place, hlt, Nat.le_of_lt hlt]
    · simp [place, hgt, Nat.le_of_lt hgt]
  | cons t rules ih =>
    by_cases hs : Text.byteLength t.name.chars < Text.byteLength s.name.chars
    · by_cases hr : Text.byteLength t.name.chars < Text.byteLength r.name.chars
      · -- Both go in front of the same rule, and the longer one of them is first.
        rcases Nat.lt_or_gt_of_ne h with hlt | hgt
        · simp [place, hs, hr, hlt, Nat.le_of_lt hlt]
        · simp [place, hs, hr, hgt, Nat.le_of_lt hgt]
      · have hle : Text.byteLength r.name.chars ≤ Text.byteLength s.name.chars := by omega
        simp [place, hs, hr, hle]
    · by_cases hr : Text.byteLength t.name.chars < Text.byteLength r.name.chars
      · have hle : Text.byteLength s.name.chars ≤ Text.byteLength r.name.chars := by omega
        simp [place, hs, hr, hle]
      · simp [place, hs, hr, ih]

/-- **A threshold replaces the one before it without a trace.** -/
theorem assign_assign (d : Directives) (n : Name) (t u : Threshold) :
    (d.assign n t).assign n u = d.assign n u := by
  unfold assign
  split
  · rfl
  · rw [filter_place_of_not (by simp), List.filter_filter]
    simp

/-- **Assignments to names of different lengths may change places.** -/
theorem WellFormed.assign_comm {d : Directives} (h : d.WellFormed) {n m : Name}
    (hne : Text.byteLength n.chars ≠ Text.byteLength m.chars) (t u : Threshold) :
    (d.assign n t).assign m u = (d.assign m u).assign n t := by
  have hnames : n ≠ m := by
    rintro rfl
    exact hne rfl
  unfold Directives.assign
  by_cases hn : n.isRoot = true
  · have hm : ¬m.isRoot = true := by
      intro hm
      exact hnames ((Name.isRoot_iff.1 hn).trans (Name.isRoot_iff.1 hm).symm)
    rw [if_pos hn, if_neg hm, if_neg hm, if_pos hn]
  · by_cases hm : m.isRoot = true
    · rw [if_neg hn, if_pos hm, if_pos hm, if_neg hn]
    · have hplace (k l : Name) (v : Threshold) (hkl : k ≠ l) :
          (place ⟨k, v⟩ (d.rules.filter (·.name ≠ k))).filter (·.name ≠ l) =
            place ⟨k, v⟩ ((d.rules.filter (·.name ≠ k)).filter (·.name ≠ l)) :=
        filter_place (by simpa using hkl) (h.sorted.filter _)
      rw [if_neg hn, if_neg hm, if_neg hm, if_neg hn]
      dsimp only
      -- Both times the old rules of the two names go first, and then the new ones are placed.
      rw [hplace n m t hnames, hplace m n u hnames.symm, place_place hne.symm, List.filter_filter,
        List.filter_filter]
      simp only [Bool.and_comm]

/-! ### The promise -/

theorem Obtained.assignAll {d : Directives} (h : Obtained d) (as : List Assignment) :
    Obtained (d.assignAll as) := by
  induction as generalizing d with
  | nil => exact h
  | cons a as ih => exact ih (h.assign a.1 a.2)

/-- **Directives are what their assignments represent**, and written directives are assignments on
    top of letting everything pass. So a second assignment to a name makes up for the first, and
    those to names of different lengths commute. -/
theorem rules_represent_assignments :
    (∀ start as d, Represents start as d ↔
        d = ({ fallback := start } : Directives).assignAll as) ∧
      (∀ s d, parse s = .ok d → ∃ as, List.Forall₂ Asks (filled s) as ∧
        Represents (.atLeast .trace) as d) ∧
      (∀ (d : Directives) n t u, (d.assign n t).assign n u = d.assign n u) ∧
      ∀ d, Obtained d → ∀ (n m : Name) t u,
        Text.byteLength n.chars ≠ Text.byteLength m.chars →
        (d.assign n t).assign m u = (d.assign m u).assign n t := by
  refine ⟨?_, ?_, assign_assign, ?_⟩
  · intro start as d
    constructor
    · intro h
      exact h.unique (represents_assignAll start as)
    · rintro rfl
      exact represents_assignAll start as
  · intro s d h
    obtain ⟨as, has, rfl⟩ := parse_eq_ok_iff.1 h
    exact ⟨as, has, represents_assignAll _ as⟩
  · intro d h n m t u hne
    exact h.wellFormed.assign_comm hne t u

/-- A name is given a second threshold after another one as long, and so moves behind that one. Two
    letters may take more bytes than three. -/
theorem rules_represent_assignments_of_ties :
    let name : String → Name := Name.ofString
    let given : List Assignment := [(name "b", .atLeast .debug), (name "a.b", .off),
      (name "c", .atLeast .info), (name "b", .atLeast .error), (.root, .atLeast .warn)]
    let d : Directives := ⟨.atLeast .warn,
      [⟨name "a.b", .off⟩, ⟨name "c", .atLeast .info⟩, ⟨name "b", .atLeast .error⟩]⟩
    Represents .off given d ∧
      (∃ as, List.Forall₂ Asks (filled " error ,, b = off,b= Warning".toList) as ∧
        Represents (.atLeast .trace) as ⟨.atLeast .error, [⟨name "b", .atLeast .warn⟩]⟩) ∧
      (d.assign (name "éé") .off).assign (name "x.y") .off =
        (d.assign (name "x.y") .off).assign (name "éé") .off := by
  intro name given d
  obtain ⟨hrepresents, hparse, -, hcomm⟩ := rules_represent_assignments
  have hd : d = ({ fallback := .off } : Directives).assignAll given := by decide
  have hobtained : Obtained d := by
    rw [hd]
    exact (Obtained.plain .off).assignAll given
  refine ⟨(hrepresents .off given d).2 hd, ?_, ?_⟩
  · exact hparse _ _ rfl
  · exact hcomm d hobtained _ _ _ _ (by decide)

end LoggerTree.Directives
