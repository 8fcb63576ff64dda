import LoggerTree.Context
import Mathlib.Tactic.ByContra

/-! # What contexts resolve to

    The walk outward stops early, passes over companions and collects its names in reverse. All
    the same it gives the plain **chain**: the names of the scopes that are no companions,
    outermost first.

    Main statement: `resolve_meaning`. A context is named after its chain if its innermost scopes
    say so or its type gives no plain path, and after the path of its type otherwise.
-/

namespace LoggerTree.Context

/-! ### The walk -/

/-- The walk loses no scope that adds a segment, repeats none and keeps their order. -/
theorem outward_eq_segmentNames (scopes : List Scope) : outward scopes = segmentNames scopes := by
  induction scopes with
  | nil => rfl
  | cons s owners ih =>
    unfold outward
    by_cases hs : s.kind = .companion
    · rw [if_pos hs, ih]
      simp [segmentNames, hs]
    · rw [if_neg hs]
      -- Where the walk stops, it takes the rest of the path at once.
      split
      · rfl
      · rw [ih]
        simp [segmentNames, hs]

theorem segmentNames_reverse (scopes : List Scope) :
    segmentNames scopes.reverse = (segmentNames scopes).reverse := by
  unfold segmentNames
  rw [List.filter_reverse, List.map_reverse]

theorem symbolName_eq_chainName (c : Context) : c.symbolName = c.chainName := by
  unfold symbolName chainName
  rw [outward_eq_segmentNames, segmentNames_reverse, List.reverse_reverse]

/-- Only the scopes that are no companions matter to the chain. -/
theorem chainName_congr {c d : Context}
    (h : c.scopes.filter (·.kind ≠ .companion) = d.scopes.filter (·.kind ≠ .companion)) :
    c.chainName = d.chainName := by
  unfold chainName segmentNames
  rw [h]

/-! ### The innermost scopes -/

/-- A type right inside a type or a singleton. -/
def EndsNested (c : Context) : Prop :=
  ∃ outer owner inner, c.scopes = outer ++ [owner, inner] ∧ inner.kind = .type ∧
    (owner.kind = .type ∨ owner.kind = .singleton)

/-- A singleton is innermost. -/
def EndsInSingleton (c : Context) : Prop :=
  ∃ outer inner, c.scopes = outer ++ [inner] ∧ inner.kind = .singleton

theorem endsNested_iff {c : Context} : c.EndsNested ↔ c.kind = .nested := by
  unfold EndsNested kind
  obtain ⟨scopes, typeText⟩ := c
  constructor
  · rintro ⟨outer, ⟨_, _⟩, ⟨_, _⟩, rfl, rfl, rfl | rfl⟩ <;> simp [kindOf]
  · intro h
    rw [← List.reverse_reverse scopes]
    generalize scopes.reverse = inward at h
    unfold kindOf at h
    split at h
    · exact absurd h (by simp)
    · next n o rest =>
      exact ⟨rest.reverse, ⟨o, .type⟩, ⟨n, .type⟩, by simp, rfl, .inl rfl⟩
    · next n o rest =>
      exact ⟨rest.reverse, ⟨o, .singleton⟩, ⟨n, .type⟩, by simp, rfl, .inr rfl⟩
    · exact absurd h (by simp)

theorem endsInSingleton_iff {c : Context} : c.EndsInSingleton ↔ c.kind = .singleton := by
  unfold EndsInSingleton kind
  obtain ⟨scopes, typeText⟩ := c
  constructor
  · rintro ⟨outer, ⟨_, _⟩, rfl, rfl⟩
    simp [kindOf]
  · intro h
    rw [← List.reverse_reverse scopes]
    generalize scopes.reverse = inward at h
    unfold kindOf at h
    split at h
    · next n rest => exact ⟨rest.reverse, ⟨n, .singleton⟩, by simp, rfl⟩
    · exact absurd h (by simp)
    · exact absurd h (by simp)
    · exact absurd h (by simp)

/-- The scopes alone decide for nested types, and for singletons named by symbol. -/
theorem isBySymbol_iff {c : Context} {s : Strategy} :
    c.isBySymbol s = true ↔ c.EndsNested ∨ c.EndsInSingleton ∧ s = .bySymbol := by
  rw [endsNested_iff, endsInSingleton_iff, isBySymbol]
  cases c.kind <;> simp

/-! ### Names -/

/-- The text of the attached type is a plain path, marks and simple arguments aside. -/
def HasPath (c : Context) (path : List Char) : Prop :=
  ∃ raw, c.typeText = some raw ∧ TypeText.erase raw = some ⟨path, false⟩

theorem typeName?_of_hasPath {c : Context} {path : List Char} (h : c.HasPath path) :
    c.typeName? = some (Name.ofChars path) := by
  obtain ⟨raw, hraw, herase⟩ := h
  simp [typeName?, hraw, herase]

theorem typeName?_of_no_path {c : Context} (h : ∀ path, ¬c.HasPath path) :
    c.typeName? = none := by
  unfold typeName?
  split
  · next path hpath =>
    obtain ⟨raw, hraw, herase⟩ := Option.bind_eq_some_iff.1 hpath
    exact absurd ⟨raw, hraw, herase⟩ (h path)
  · rfl

theorem resolve_eq_ite (c : Context) (s : Strategy) :
    c.resolve s = if c.isBySymbol s then c.chainName else c.typeName?.getD c.chainName := by
  rw [resolve, symbolName_eq_chainName]

/-- Without a type, every strategy gives the chain. -/
theorem resolve_eq_chainName {c : Context} (h : c.typeText = none) (s : Strategy) :
    c.resolve s = c.chainName := by
  have hname : c.typeName? = none := by simp [typeName?, h]
  rw [resolve_eq_ite, hname]
  simp

/-- **The name of a context.** Scopes that decide give the chain; else a type with a plain path
    gives that path, and without one it is the chain again. The walk is the chain for every list
    of scopes, so strategies differ at most on singletons with such a type, and without a type
    companions may come and go anywhere. -/
theorem resolve_meaning (c : Context) (s : Strategy) :
    (c.EndsNested ∨ c.EndsInSingleton ∧ s = .bySymbol → c.resolve s = c.chainName) ∧
      (¬(c.EndsNested ∨ c.EndsInSingleton ∧ s = .bySymbol) →
        (∀ path, c.HasPath path → c.resolve s = Name.ofChars path) ∧
        ((∀ path, ¬c.HasPath path) → c.resolve s = c.chainName)) ∧
      (outward c.scopes.reverse).reverse = segmentNames c.scopes ∧
      (c.resolve .byType ≠ c.resolve .bySymbol →
        c.EndsInSingleton ∧ ∃ path, c.HasPath path) ∧
      (∀ (d : Context) (t : Strategy), c.typeText = none → d.typeText = none →
        c.scopes.filter (·.kind ≠ .companion) = d.scopes.filter (·.kind ≠ .companion) →
        c.resolve s = d.resolve t) := by
  refine ⟨?_, ?_, ?_, ?_, ?_⟩
  · intro h
    rw [resolve_eq_ite, if_pos (isBySymbol_iff.2 h)]
  · intro h
    have hs : ¬c.isBySymbol s = true := mt isBySymbol_iff.1 h
    rw [resolve_eq_ite, if_neg hs]
    constructor
    · intro path hpath
      rw [typeName?_of_hasPath hpath]
      rfl
    · intro hnone
      rw [typeName?_of_no_path hnone]
      rfl
  · rw [outward_eq_segmentNames, segmentNames_reverse, List.reverse_reverse]
  · intro hne
    have hpath : ∃ path, c.HasPath path := by
      -- Without a path both give the chain.
      by_contra hnone
      apply hne
      rw [resolve_eq_ite, resolve_eq_ite, typeName?_of_no_path (not_exists.1 hnone)]
      simp
    have hsingleton : c.EndsInSingleton := by
      by_contra hnot
      apply hne
      -- Away from singletons the strategy has no say in who decides.
      have hsame : c.isBySymbol .byType = c.isBySymbol .bySymbol := by
        rw [Bool.eq_iff_iff, isBySymbol_iff, isBySymbol_iff]
        simp [hnot]
      rw [resolve_eq_ite, resolve_eq_ite, hsame]
    exact ⟨hsingleton, hpath⟩
  · intro d t hc hd hfilter
    rw [resolve_eq_chainName hc, resolve_eq_chainName hd, chainName_congr hfilter]

/-- A singleton of a module, with a type that is a plain path behind a mark: its chain by symbol,
    the path by type. Without the type it is the chain, companions or not. -/
theorem resolve_meaning_of_registry :
    let c : Context := ⟨[⟨"app".toList, .module⟩, ⟨"REGISTRY".toList, .singleton⟩],
      some "&app::T<u8>".toList⟩
    let bare : Context := { c with typeText := none }
    let paired : Context := { bare with
      scopes := ⟨"items".toList, .companion⟩ :: bare.scopes ++ [⟨"tail".toList, .companion⟩] }
    c.resolve .bySymbol = c.chainName ∧ c.resolve .byType = Name.ofString "app::T" ∧
      bare.resolve .byType = bare.chainName ∧
      (c.EndsInSingleton ∧ ∃ path, c.HasPath path) ∧
      bare.resolve .byType = paired.resolve .bySymbol := by
  intro c bare paired
  have hends : c.EndsInSingleton :=
    ⟨[⟨"app".toList, .module⟩], ⟨"REGISTRY".toList, .singleton⟩, rfl, rfl⟩
  have hpath : c.HasPath "app::T".toList := ⟨_, rfl, by decide +kernel⟩
  -- By type, a singleton of a module leaves the choice to the type.
  have hopen : ∀ typeText, ¬(EndsNested { c with typeText } ∨
      EndsInSingleton { c with typeText } ∧ Strategy.byType = .bySymbol) := by
    intro typeText
    rw [← isBySymbol_iff]
    exact Bool.eq_false_iff.1 rfl
  have hsymbol := (resolve_meaning c .bySymbol).1 (.inr ⟨hends, rfl⟩)
  have htype := ((resolve_meaning c .byType).2.1 (hopen c.typeText)).1 _ hpath
  refine ⟨hsymbol, htype, ?_, ?_, ?_⟩
  · apply ((resolve_meaning bare .byType).2.1 (hopen none)).2
    rintro path ⟨raw, hraw, -⟩
    exact absurd hraw (by simp [bare])
  · apply (resolve_meaning c .byType).2.2.2.1
    rw [hsymbol, htype]
    decide
  · exact (resolve_meaning bare .byType).2.2.2.2 paired .bySymbol rfl rfl (by decide)

end LoggerTree.Context
