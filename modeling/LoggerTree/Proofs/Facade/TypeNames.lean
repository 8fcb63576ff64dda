import LoggerTree.Proofs.Context.OfType
import LoggerTree.Proofs.Facade.Requests

/-! # Names that factories keep

    A factory keeps the name of a type from the first request on, and goes on giving that name
    when it has got another strategy. This does no harm: a type has the same name under every
    strategy, so what is kept is what would be found anew.

    Main statement: `typeNames_never_stale`. After every history a factory gives each type its
    name, and it keeps as many names as there are distinct types it has been asked for.
-/

namespace LoggerTree

namespace Factory

/-- The types whose names are kept, oldest first. -/
def types (k : Factory) : List (List Char) :=
  k.typeNames.map (·.1)

/-- What is kept for a type is its name, and it is kept once. -/
structure KeepsNames (k : Factory) : Prop where
  sound : ∀ e ∈ k.typeNames, e.2 = .ofType e.1
  distinct : k.types.Nodup

theorem typeName?_eq_none_iff {k : Factory} {raw : List Char} :
    k.typeName? raw = none ↔ raw ∉ k.types := by
  simp only [typeName?, Option.map_eq_none_iff, List.find?_eq_none, decide_eq_true_eq, types,
    List.mem_map, not_exists, not_and]

theorem KeepsNames.typeName? {k : Factory} (h : k.KeepsNames) {raw : List Char} {n : Name}
    (hkept : k.typeName? raw = some n) : n = .ofType raw := by
  obtain ⟨e, hfound, rfl⟩ := Option.map_eq_some_iff.1 hkept
  have htype : e.1 = raw := by simpa using List.find?_some hfound
  rw [h.sound e (List.mem_of_find?_eq_some hfound), htype]

/-- A type that is asked for the first time is added with its name. -/
theorem KeepsNames.add {k : Factory} (h : k.KeepsNames) {raw : List Char}
    (fresh : k.typeName? raw = none) :
    KeepsNames { k with typeNames := k.typeNames ++ [(raw, k.resolveType raw)] } where
  sound e he := by
    rcases List.mem_append.1 he with he | he
    · exact h.sound e he
    · obtain rfl := List.mem_singleton.1 he
      exact Context.resolve_ofType raw k.strategy
  distinct := by
    rw [types, List.map_append, List.nodup_append_comm]
    exact List.nodup_cons.2 ⟨typeName?_eq_none_iff.1 fresh, h.distinct⟩

theorem keepsNames_of_new {k : Factory} (h : k.typeNames = []) : k.KeepsNames := by
  constructor <;> simp [types, h]

end Factory

namespace Facade

/-! ### What is kept stays right -/

theorem factories_setFactory_ne {f : Facade} {k i : Nat} {factory : Factory} (ne : k ≠ i) :
    (f.setFactory i factory).factories k = f.factories k := by
  simp [setFactory, ne]

theorem keepsNames_change {f g : Facade} {k : Nat} (hchange : f.Change g)
    (h : (f.factories k).KeepsNames) : (g.factories k).KeepsNames := by
  cases hchange with
  | sent e => rwa [factories_send]
  | cached i raw fresh =>
    by_cases hk : k = i
    · subst hk
      rw [factories_setFactory_self]
      exact h.add fresh
    · rwa [factories_setFactory_ne hk]
  | renamed i strategy =>
    by_cases hk : k = i
    · subst hk
      -- The names that are kept have been found under another strategy, and stay.
      rw [setStrategy, factories_setFactory_self]
      exact ⟨h.sound, h.distinct⟩
    · rwa [setStrategy, factories_setFactory_ne hk]
  | made | held | again | noted | directed | cleared => exact h

theorem keepsNames_run {f : Facade} {k : Nat} (h : (f.factories k).KeepsNames)
    (history : List Command) : ((f.run history).factories k).KeepsNames :=
  run_keeps (fun _ _ => keepsNames_change) h history

/-- A factory gives a type its name, whether it keeps the name or not. -/
theorem name_nameFor {f : Facade} {k : Nat} (h : (f.factories k).KeepsNames)
    (raw : List Char) : (f.nameFor k raw).1 = .ofType raw := by
  unfold nameFor
  dsimp only
  split
  · next kept => exact h.typeName? kept
  · exact Context.resolve_ofType raw _

/-! ### What is kept has been asked for -/

theorem factories_nameFor_ne {f : Facade} {k i : Nat} (ne : k ≠ i) (raw : List Char) :
    (f.nameFor i raw).2.factories k = f.factories k := by
  unfold nameFor
  dsimp only
  split
  · rfl
  · rw [factories_setFactory_ne ne, factories_send]

/-- After that, the factory keeps the type besides those it has kept. -/
theorem mem_types_nameFor {f : Facade} {k : Nat} {raw t : List Char} :
    t ∈ ((f.nameFor k raw).2.factories k).types ↔ t ∈ (f.factories k).types ∨ t = raw := by
  unfold nameFor
  dsimp only
  split
  · next kept =>
    have hmem : raw ∈ (f.factories k).types := by
      by_contra hnot
      rw [Factory.typeName?_eq_none_iff.2 hnot] at kept
      cases kept
    constructor
    · exact .inl
    · rintro (h | rfl)
      · exact h
      · exact hmem
  · simp [Factory.types]

theorem name_loggerFor (f : Facade) (k : Nat) (raw : List Char) :
    (f.loggerFor k raw).1.name = (f.nameFor k raw).1 :=
  name_handle _ _ _

/-- Getting a logger for a type concerns factories only as far as its name is asked for. -/
theorem factories_loggerFor (f : Facade) (k : Nat) (raw : List Char) :
    (f.loggerFor k raw).2.factories = (f.nameFor k raw).2.factories :=
  factories_fetch _ _ _

theorem factories_loggerWith (f : Facade) (k : Nat) (context : Context) (strategy : Strategy) :
    (f.loggerWith k context strategy).2.factories = f.factories :=
  (factories_fetch _ _ _).trans (factories_send f _)

/-- A command that does not ask a factory for a type leaves the names that it keeps alone. -/
theorem typeNames_step {f : Facade} {k : Nat} {c : Command} (h : c.type? k = none) :
    ((f.step c).2.factories k).typeNames = (f.factories k).typeNames := by
  cases c with
  | acquire i a =>
    cases a with
    | type raw =>
      have hk : k ≠ i := by
        rintro rfl
        simp [Command.type?] at h
      show ((f.loggerFor i raw).2.factories k).typeNames = _
      rw [factories_loggerFor, factories_nameFor_ne hk]
    | name text => exact congrArg (fun g => (g k).typeNames) (factories_fetch f _ _)
    | module | context | singleton =>
      exact congrArg (fun g => (g k).typeNames) (factories_loggerWith f i _ _)
  | acquireWith i context strategy =>
    exact congrArg (fun g => (g k).typeNames) (factories_loggerWith f i context strategy)
  | acquireDirect b name => exact congrArg (fun g => (g k).typeNames) (factories_fetch f b name)
  | nameFor i raw =>
    have hk : k ≠ i := by
      rintro rfl
      simp [Command.type?] at h
    show ((f.nameFor i raw).2.factories k).typeNames = _
    rw [factories_nameFor_ne hk]
  | clone i =>
    simp only [step, withLogger]
    split <;> rfl
  | query i level =>
    simp only [step, withLogger]
    split
    · next l _ => rw [(closedUnderUse_sameSetup.query f l level).factories]
    · rfl
  | call c => exact congrArg (fun g => (g k).typeNames) (c.sameSetup_run f).factories
  | emit i level message error =>
    simp only [step, withLogger]
    split
    · next l _ => rw [(closedUnderUse_sameSetup.emit f l level message error).factories]
    · rfl
  | setStrategy i strategy =>
    show ((f.setStrategy i strategy).factories k).typeNames = _
    by_cases hk : k = i
    · subst hk
      rw [setStrategy, factories_setFactory_self]
    · rw [setStrategy, factories_setFactory_ne hk]
  | setDirectives b d => rfl
  | clear b => rfl

theorem mem_types_step {f : Facade} {k : Nat} {c : Command} {t : List Char} :
    t ∈ ((f.step c).2.factories k).types ↔
      t ∈ (f.factories k).types ∨ c.type? k = some t := by
  cases htype : c.type? k with
  | none => simp [Factory.types, typeNames_step htype]
  | some raw =>
    have hasked : (f.step c).2.factories k = (f.nameFor k raw).2.factories k := by
      unfold Command.type? at htype
      split at htype
      · obtain ⟨rfl, hraw⟩ := Option.ite_none_right_eq_some.1 htype
        cases hraw
        exact congrFun (factories_loggerFor f _ _) _
      · obtain ⟨rfl, hraw⟩ := Option.ite_none_right_eq_some.1 htype
        cases hraw
        rfl
      · cases htype
    rw [hasked, mem_types_nameFor, Option.some.injEq, eq_comm (a := raw)]

/-- A factory keeps the names of the types that it has been asked for, and no others. -/
theorem mem_types_run {f : Facade} {k : Nat} {history : List Command} {t : List Char} :
    t ∈ ((f.run history).factories k).types ↔
      t ∈ (f.factories k).types ∨ t ∈ history.filterMap (Command.type? k) := by
  induction history generalizing f with
  | nil => simp
  | cons c history ih =>
    rw [run_cons, ih, mem_types_step]
    cases htype : c.type? k with
    | none => rw [List.filterMap_cons_none htype]; simp
    | some raw =>
      rw [List.filterMap_cons_some htype, List.mem_cons, Option.some.injEq, or_assoc,
        eq_comm (a := raw)]

/-- **The names that a factory keeps are never stale.** Whatever has been asked of it, under
    whichever strategies, it gives every type its name, which is the same for all of them. It keeps
    one name for each type it has been asked for, and nothing else changes their number. -/
theorem typeNames_never_stale {start : Facade} {k : Nat}
    (hnew : (start.factories k).typeNames = []) (history : List Command) :
    (∀ raw, ((start.run history).nameFor k raw).1 = .ofType raw ∧
        (∀ s, (Context.ofType raw).resolve s = .ofType raw) ∧
        ((start.run history).loggerFor k raw).1.name = .ofType raw) ∧
      ((start.run history).factories k).typeCount =
        (history.filterMap (Command.type? k)).dedup.length ∧
      ∀ c : Command, c.type? k = none →
        (((start.run history).step c).2.factories k).typeCount =
          ((start.run history).factories k).typeCount := by
  have hkeeps := keepsNames_run (Factory.keepsNames_of_new hnew) history
  refine ⟨?_, ?_, ?_⟩
  · intro raw
    have hname := name_nameFor hkeeps raw
    refine ⟨hname, Context.resolve_ofType raw, ?_⟩
    rw [name_loggerFor, hname]
  · have hlength : ((start.run history).factories k).typeCount =
        ((start.run history).factories k).types.length := by
      rw [Factory.typeCount, Factory.types, List.length_map]
    rw [hlength]
    apply length_eq_length_dedup hkeeps.distinct
    intro t
    rw [mem_types_run]
    simp [Factory.types, hnew]
  · intro c hc
    rw [Factory.typeCount, typeNames_step hc, Factory.typeCount]

/-- The name of a type with arguments of arguments is first asked for by type, then again by
    symbol. In between a pair is asked for, and a logger with the first type's name. -/
theorem typeNames_never_stale_of_renaming :
    let wrapper := "app::Wrapper<alloc::Vec<u8>>".toList
    let history : List Command := [.nameFor 0 wrapper, .setStrategy 0 .bySymbol,
      .acquire 0 (.type "(u8, u16)".toList), .acquire 0 (.name "app.Wrapper".toList),
      .acquire 0 (.type wrapper)]
    let start : Facade := {}
    (start.factories 0).typeNames = [] ∧
      ((start.run history).nameFor 0 wrapper).1 = .ofString "app.Wrapper" ∧
      ((start.run history).loggerFor 0 wrapper).1.name = .ofString "app.Wrapper" ∧
      ((start.run history).factories 0).typeCount = 2 ∧
      (((start.run history).step (.query 0 .info)).2.factories 0).typeCount = 2 := by
  intro wrapper history start
  have hname : Name.ofType wrapper = .ofString "app.Wrapper" := by decide +kernel
  obtain ⟨hnames, hcount, hothers⟩ := @typeNames_never_stale start 0 rfl history
  have htwo : ((start.run history).factories 0).typeCount = 2 := hcount
  refine ⟨rfl, ?_, ?_, htwo, ?_⟩
  · rw [(hnames wrapper).1, hname]
  · rw [(hnames wrapper).2.2, hname]
  · rw [hothers _ rfl, htwo]

end Facade

end LoggerTree
