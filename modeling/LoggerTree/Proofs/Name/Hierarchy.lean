import LoggerTree.Proofs.Name.Lineage
import Mathlib.Data.List.Chain
import Mathlib.Logic.Relation

/-! # The order of names

    Three algorithms speak of the place of a name: cutting at the last dot again and again, testing
    for a start that ends with a part, and splitting at all dots. They define one order, in which
    every name has a single way up to the root.

    Main statement: `hierarchy`. For names without empty parts, to lie within another name is to
    start with its segments.
-/

namespace LoggerTree.Name

/-! ### Going up -/

/-- One step up. -/
def HasParent (n p : Name) : Prop :=
  n.parent? = some p

/-- The second name is the first one, its parent, the parent of that one, and so on. -/
def Climbs : Name → Name → Prop :=
  Relation.ReflTransGen HasParent

theorem hasParent_unique : Relator.RightUnique HasParent := by
  intro n p q hp hq
  exact Option.some.inj (hp.symm.trans hq)

/-- The lineage is what is met on the way up. -/
theorem mem_lineage_iff_climbs {n m : Name} : m ∈ n.lineage ↔ n.Climbs m := by
  fun_induction lineage n with
  | case1 n h =>
    rw [List.mem_singleton]
    constructor
    · rintro rfl
      exact .refl
    · intro hclimb
      rcases hclimb.cases_head with rfl | ⟨p, hp, -⟩
      · rfl
      · rw [HasParent, h] at hp
        cases hp
  | case2 n p h ih =>
    rw [List.mem_cons, ih]
    constructor
    · rintro (rfl | hclimb)
      · exact .refl
      · exact .head h hclimb
    · -- A way up that goes on goes on to the only parent there is.
      intro hclimb
      rcases hclimb.cases_head with rfl | ⟨q, hq, hclimb⟩
      · exact .inl rfl
      · rw [hasParent_unique h hq]
        exact .inr hclimb

/-- A name lies within those that it climbs to. -/
theorem isWithin_iff_climbs {n m : Name} : n.isWithin m.chars = true ↔ n.Climbs m :=
  mem_lineage_iff.symm.trans mem_lineage_iff_climbs

/-- A text that a name lies within is that of a name on the way up. -/
theorem isWithin_iff_exists_climbs {n : Name} {outer : List Char} :
    n.isWithin outer = true ↔ ∃ m, n.Climbs m ∧ m.chars = outer := by
  constructor
  · intro h
    exact ⟨⟨outer⟩, isWithin_iff_climbs.1 h, rfl⟩
  · rintro ⟨m, hclimb, rfl⟩
    exact isWithin_iff_climbs.2 hclimb

theorem head?_lineage (n : Name) : n.lineage.head? = some n := by
  cases h : n.parent? with
  | none => rw [lineage_of_parent?_eq_none h]; rfl
  | some p => rw [lineage_of_parent?_eq_some h]; rfl

/-- Each name of a lineage is followed by its parent. -/
theorem isChain_lineage (n : Name) : n.lineage.IsChain HasParent := by
  fun_induction lineage n with
  | case1 n h => exact .singleton n
  | case2 n p h ih =>
    refine ih.cons ?_
    intro q hq
    rw [head?_lineage, Option.mem_some_iff] at hq
    exact hq ▸ h

/-- The way up ends at the root. -/
theorem getLast?_lineage (n : Name) : n.lineage.getLast? = some root := by
  fun_induction lineage n with
  | case1 n h => rw [parent?_eq_none_iff.1 h]; rfl
  | case2 n p h ih => rw [List.getLast?_cons, ih]; rfl

/-! ### The order -/

theorem isWithin_trans {n m o : Name} (hm : n.isWithin m.chars = true)
    (ho : m.isWithin o.chars = true) : n.isWithin o.chars = true :=
  isWithin_iff_climbs.2 ((isWithin_iff_climbs.1 hm).trans (isWithin_iff_climbs.1 ho))

/-- Of two names that lie within each other neither is the longer one. -/
theorem isWithin_antisymm {n m : Name} (hm : n.isWithin m.chars = true)
    (hn : m.isWithin n.chars = true) : m = n := by
  by_contra hne
  have hlt := byteLength_lt_of_isWithin hm hne
  have hgt := byteLength_lt_of_isWithin hn (Ne.symm hne)
  omega

/-- There is one way up, so of two names on it one lies within the other. -/
theorem isWithin_or_isWithin {n m o : Name} (hm : n.isWithin m.chars = true)
    (ho : n.isWithin o.chars = true) :
    m.isWithin o.chars = true ∨ o.isWithin m.chars = true := by
  rw [isWithin_iff_climbs] at hm ho ⊢
  rw [isWithin_iff_climbs]
  exact hm.total_of_right_unique hasParent_unique ho

/-! ### Segments -/

/-- No part between two dots is empty, nor one at an end. The root has no parts. -/
def IsTight (n : Name) : Prop :=
  n = root ∨ [] ∉ Text.split '.' n.chars

instance (n : Name) : Decidable n.IsTight :=
  inferInstanceAs (Decidable (_ ∨ _))

/-- The segments of a tight name are all of its parts. -/
theorem IsTight.segments_eq {n : Name} (h : n.IsTight) (hn : n ≠ root) :
    n.segments = Text.split '.' n.chars := by
  have hparts : [] ∉ Text.split '.' n.chars := h.resolve_left hn
  refine List.filter_eq_self.2 ?_
  intro w hw
  have hne : w ≠ [] := by
    rintro rfl
    exact hparts hw
  simpa using hne

theorem IsTight.segments_ne_nil {n : Name} (h : n.IsTight) (hn : n ≠ root) :
    n.segments ≠ [] := by
  rw [h.segments_eq hn]
  exact Text.split_ne_nil '.' n.chars

/-- A name has the segments of those it lies within, and more behind them. -/
theorem segments_prefix_of_isWithin {n m : Name} (h : n.isWithin m.chars = true) :
    m.segments <+: n.segments := by
  rcases isWithin_iff.1 h with hroot | hself | ⟨rest, heq⟩
  · have hm : m.segments = [] := by
      rw [segments, hroot]
      rfl
    rw [hm]
    exact List.nil_prefix
  · have hsame : n.segments = m.segments := by rw [segments, segments, hself]
    exact hsame ▸ List.prefix_rfl
  · -- The dot behind the outer name keeps its parts apart from the others.
    rw [segments, segments, heq, Text.split_append_cons, List.filter_append]
    exact List.prefix_append _ _

/-- A text that has the parts of another one and more behind them goes on with a dot. -/
theorem isWithin_of_split_prefix {n m : Name}
    (h : Text.split '.' m.chars <+: Text.split '.' n.chars) : n.isWithin m.chars = true := by
  obtain ⟨others, heq⟩ := h
  have hm := Text.intercalate_split '.' m.chars
  have hn := Text.intercalate_split '.' n.chars
  rw [← heq] at hn
  rw [isWithin_iff]
  -- With no parts left the texts are the same, and else a dot joins what is left.
  cases others with
  | nil =>
    rw [List.append_nil, hm] at hn
    exact .inr (.inl hn.symm)
  | cons w ws =>
    refine .inr (.inr ⟨['.'].intercalate (w :: ws), ?_⟩)
    rw [← hn, Text.intercalate_append '.' (Text.split_ne_nil '.' m.chars) (by simp), hm]

/-- **Among tight names, to lie within another is to start with its segments.** -/
theorem isWithin_iff_segments_prefix {n m : Name} (hn : n.IsTight) (hm : m.IsTight) :
    n.isWithin m.chars = true ↔ m.segments <+: n.segments := by
  refine ⟨segments_prefix_of_isWithin, ?_⟩
  intro h
  by_cases hmroot : m = root
  · rw [hmroot]
    exact isWithin_root n
  · have hnroot : n ≠ root := by
      rintro rfl
      exact hm.segments_ne_nil hmroot (List.prefix_nil.1 h)
    rw [hn.segments_eq hnroot, hm.segments_eq hmroot] at h
    exact isWithin_of_split_prefix h

/-- The parent of a tight name lacks its last segment, and no other one. -/
theorem IsTight.segments_parent? {n p : Name} (h : n.IsTight) (hp : n.HasParent p) :
    p.segments = n.segments.dropLast := by
  have hn : n ≠ root := by
    rintro rfl
    cases hp
  rw [HasParent, parent?, if_neg (by simpa using hn), Option.some.injEq] at hp
  subst hp
  cases hl : Text.beforeLast? '.' n.chars with
  | none =>
    rw [h.segments_eq hn, Text.split_of_not_mem (Text.beforeLast?_eq_none_iff.1 hl)]
    rfl
  | some l =>
    obtain ⟨r, heq, hr⟩ := Text.eq_of_beforeLast?_eq_some hl
    have hsplit : Text.split '.' n.chars = Text.split '.' l ++ [r] := by
      rw [heq, Text.split_append_cons, Text.split_of_not_mem hr]
    -- Of the last part it matters only that it is one, so that it is a segment.
    have hr : r ≠ [] := by
      rintro rfl
      exact h.resolve_left hn (by simp [hsplit])
    have hsegments : n.segments = segments ⟨l⟩ ++ [r] := by
      rw [segments, segments, hsplit, List.filter_append]
      simp [hr]
    rw [hsegments, List.dropLast_concat]
    rfl

/-! ### The promise -/

/-- What is promised of a name and the names above it. -/
structure Hierarchy (n : Name) : Prop where
  /-- A name lies within the texts of the names on its way up and within no others. -/
  within : ∀ outer, n.isWithin outer = true ↔ ∃ m, n.Climbs m ∧ m.chars = outer
  within_empty : n.isWithin [] = true
  /-- The lineage holds these names, from the name itself to the root, each in front of its parent
      and longer than all that follow. -/
  lineage : ∀ m, m ∈ n.lineage ↔ n.Climbs m
  first : n.lineage.head? = some n
  steps : n.lineage.IsChain HasParent
  shorter : n.lineage.Pairwise fun a b => Text.byteLength b.chars < Text.byteLength a.chars
  last : n.lineage.getLast? = some root
  /-- To lie within is an order. -/
  refl : n.isWithin n.chars = true
  trans : ∀ m o : Name, n.isWithin m.chars = true → m.isWithin o.chars = true →
    n.isWithin o.chars = true
  antisymm : ∀ m : Name, n.isWithin m.chars = true → m.isWithin n.chars = true → m = n
  /-- Of two names that a name lies within, one lies within the other. -/
  total : ∀ m o : Name, n.isWithin m.chars = true → n.isWithin o.chars = true →
    m.isWithin o.chars = true ∨ o.isWithin m.chars = true
  /-- Where no parts are empty, the segments tell the same. -/
  segments : n.IsTight → ∀ m : Name, m.IsTight →
    (n.isWithin m.chars = true ↔ m.segments <+: n.segments)
  parent : n.IsTight → n ≠ root → ∃ p, n.HasParent p ∧ p.segments = n.segments.dropLast

/-- **Climbing, matching and splitting define one order**, a tree below the root. -/
theorem hierarchy : root.parent? = none ∧ ∀ n : Name, Hierarchy n := by
  refine ⟨rfl, ?_⟩
  intro n
  exact
    { within := fun _ => isWithin_iff_exists_climbs
      within_empty := n.isWithin_root
      lineage := fun _ => mem_lineage_iff_climbs
      first := n.head?_lineage
      steps := n.isChain_lineage
      shorter := n.lineage_pairwise_byteLength
      last := n.getLast?_lineage
      refl := n.isWithin_self
      trans := fun _ _ => isWithin_trans
      antisymm := fun _ => isWithin_antisymm
      total := fun _ _ => isWithin_or_isWithin
      segments := fun hn _ hm => isWithin_iff_segments_prefix hn hm
      parent := by
        intro hn hne
        obtain ⟨p, hp⟩ := Option.ne_none_iff_exists'.1 (mt parent?_eq_none_iff.1 hne)
        exact ⟨p, hp, hn.segments_parent? hp⟩ }

/-- The way from `a.b.c` to `a` leads over `a.b`. A doubled dot gives a name that ends with one. -/
theorem hierarchy_of_gap :
    let n := ofString "a.b.c"
    let m := ofString "a.b"
    let o := ofString "a"
    (n.isWithin m.chars = true ∧ n.isWithin o.chars = true ∧
        (m.isWithin o.chars = true ∨ o.isWithin m.chars = true)) ∧
      (n.IsTight ∧ m.IsTight ∧ m.segments <+: n.segments) ∧
      (∃ p, n.HasParent p ∧ p.segments = ["a".toList, "b".toList]) ∧
      ∃ p, (ofString "a..b").Climbs p ∧ p.chars = "a.".toList := by
  intro n m o
  have hn := hierarchy.2 n
  have hm : n.isWithin m.chars = true := by decide
  have ho : n.isWithin o.chars = true := by decide
  have hntight : n.IsTight := by decide
  have hmtight : m.IsTight := by decide
  refine ⟨⟨hm, ho, hn.total m o hm ho⟩, ⟨hntight, hmtight, ?_⟩, ?_, ?_⟩
  · exact (hn.segments hntight m hmtight).1 hm
  · exact hn.parent hntight (by decide)
  · exact ((hierarchy.2 (ofString "a..b")).within "a.".toList).1 (by decide)

end LoggerTree.Name
