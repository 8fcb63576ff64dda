import LoggerTree.Proofs.Facade.Changes
import Mathlib.Data.List.Dedup

/-! # What commands ask for

    A command may ask a factory for the name of a type, and it may ask a backend for the handle of
    a name. Both are kept from the first request on, in lists without repetitions. All other
    commands use loggers that are there already, or change settings.

    Main statements: `Call.sameSetup_run`, that calls leave all of this alone, and
    `mem_names_fetch`, what a backend has handles for once it has been asked for one.
-/

namespace LoggerTree

/-- Keys that are kept once each are as many as there are distinct ones among those asked for. -/
theorem length_eq_length_dedup {α : Type} [DecidableEq α] {keys asked : List α}
    (hdistinct : keys.Nodup) (hmem : ∀ x, x ∈ keys ↔ x ∈ asked) :
    keys.length = asked.dedup.length := by
  have hperm : keys.Perm asked.dedup := by
    rw [List.perm_ext_iff_of_nodup hdistinct asked.nodup_dedup]
    intro x
    rw [hmem, List.mem_dedup]
  exact hperm.length_eq

/-! ### Requests -/

namespace Command

/-- The type whose name a command asks a factory for. -/
def type? (k : Nat) : Command → Option (List Char)
  | acquire i (.type raw) => if i = k then some raw else none
  | nameFor i raw => if i = k then some raw else none
  | _ => none

end Command

namespace Acquisition

/-- The name of the logger that is acquired under a strategy. -/
def resolve (strategy : Strategy) : Acquisition → Name
  | module path => (Context.module path).resolve strategy
  | type raw => .ofType raw
  | name text => .ofChars text
  | context c => c.resolve strategy
  | singleton path symbol raw? => (Context.singleton path symbol raw?).resolve strategy

end Acquisition

namespace Facade

/-- The backend that a command asks for a handle, and the name that it asks with. -/
def request? (f : Facade) : Command → Option (Nat × Name)
  | .acquire k a => some ((f.factories k).backend, a.resolve (f.factories k).strategy)
  | .acquireWith k context strategy =>
    some ((f.factories k).backend, context.resolve strategy)
  | .acquireDirect b name => some (b, name)
  | _ => none

/-- The names that a history asks a backend with, oldest first. -/
def requests (f : Facade) (b : Nat) : List Command → List Name
  | [] => []
  | c :: history =>
    let later := (f.step c).2.requests b history
    match f.request? c with
    | some (i, name) => if i = b then name :: later else later
    | none => later

theorem mem_requests_cons {f : Facade} {b : Nat} {c : Command} {history : List Command}
    {n : Name} : n ∈ f.requests b (c :: history) ↔
      f.request? c = some (b, n) ∨ n ∈ (f.step c).2.requests b history := by
  rw [requests]
  rcases f.request? c with _ | ⟨i, name⟩
  · simp
  · by_cases hi : i = b
    · simp [hi, eq_comm (a := n)]
    · simp [hi]

/-- The names that a backend has handles for, oldest first. -/
def names (f : Facade) (b : Nat) : List Name :=
  (f.backends b).handles.map (·.name)

/-! ### Using loggers -/

/-- At most journals, thresholds and what has been delivered tell two states apart. -/
structure SameSetup (f g : Facade) : Prop where
  interest : g.interest = f.interest
  factories : g.factories = f.factories
  loggers : g.loggers = f.loggers
  handles : ∀ b, (g.backends b).handles = (f.backends b).handles

/-- What a change leaves alone in one backend it leaves alone in all. -/
theorem alterBackend_keeps {α : Type} (part : Backend → α) (f : Facade) (i : Nat)
    {change : Backend → Backend} (hchange : ∀ backend, part (change backend) = part backend)
    (b : Nat) : part ((f.alterBackend i change).backends b) = part (f.backends b) := by
  by_cases hb : b = i
  · subst hb
    rw [backends_alterBackend_self, hchange]
  · rw [backends_alterBackend_ne hb]

theorem handles_alterBackend (f : Facade) (i : Nat) {change : Backend → Backend}
    (hchange : ∀ backend : Backend, (change backend).handles = backend.handles) (b : Nat) :
    ((f.alterBackend i change).backends b).handles = (f.backends b).handles :=
  alterBackend_keeps Backend.handles f i hchange b

theorem sameSetup_send (f : Facade) (e : Event) : f.SameSetup (f.send e) where
  interest := interest_send f e
  factories := factories_send f e
  loggers := loggers_send f e
  handles b := by rw [backends_send]

/-- A change to a backend leaves the rest of the setup alone, and handles if it does. -/
theorem sameSetup_alterBackend (f : Facade) (b : Nat) {change : Backend → Backend}
    (hchange : ∀ backend : Backend, (change backend).handles = backend.handles) :
    f.SameSetup (f.alterBackend b change) where
  interest := rfl
  factories := rfl
  loggers := rfl
  handles := f.handles_alterBackend b hchange

theorem sameSetup_note (f : Facade) (b : Nat) (e : Entry) :
    f.SameSetup (f.alterBackend b (·.note e)) :=
  f.sameSetup_alterBackend b (Backend.handles_note e)

theorem sameSetup_refl (f : Facade) : f.SameSetup f :=
  ⟨rfl, rfl, rfl, fun _ => rfl⟩

/-- Asking and emitting leave factories, loggers and handles as they are. -/
theorem closedUnderUse_sameSetup : ClosedUnderUse SameSetup where
  refl := sameSetup_refl
  trans hfg hgh :=
    { interest := hgh.interest.trans hfg.interest
      factories := hgh.factories.trans hfg.factories
      loggers := hgh.loggers.trans hfg.loggers
      handles := fun b => (hgh.handles b).trans (hfg.handles b) }
  query f l level := by
    unfold query
    split
    · exact f.sameSetup_refl
    · exact f.sameSetup_note _ _
  emit f l level message error := by
    unfold emit
    split
    · exact f.sameSetup_send _
    · simp only
      split <;> exact f.sameSetup_note _ _

end Facade

theorem Call.sameSetup_run (c : Call) (f : Facade) : f.SameSetup (c.run f).after :=
  within_run Facade.closedUnderUse_sameSetup c
    (within_runAll Facade.closedUnderUse_sameSetup c.inner) f

namespace Facade

/-! ### Acquiring loggers -/

/-- Gets a handle of a backend and hands it out. -/
def fetch (f : Facade) (b : Nat) (name : Name) : Logger × Facade :=
  let (l, f) := f.handle b name
  (l, f.hold l)

theorem factories_handle (f : Facade) (b : Nat) (name : Name) :
    (f.handle b name).2.factories = f.factories := by
  unfold handle
  split
  · rfl
  · exact factories_send f _

theorem loggers_handle (f : Facade) (b : Nat) (name : Name) :
    (f.handle b name).2.loggers = f.loggers := by
  unfold handle
  split
  · rfl
  · exact loggers_send f _

theorem name_handle (f : Facade) (b : Nat) (name : Name) :
    (f.handle b name).1.name = name := by
  unfold handle
  split
  · next found => exact Handles.name_of_find? found
  · rfl

theorem factories_fetch (f : Facade) (b : Nat) (name : Name) :
    (f.fetch b name).2.factories = f.factories :=
  f.factories_handle b name

theorem loggers_fetch (f : Facade) (b : Nat) (name : Name) :
    (f.fetch b name).2.loggers = f.loggers ++ [(f.fetch b name).1] := by
  show (f.handle b name).2.loggers ++ _ = _
  rw [loggers_handle]
  rfl

theorem find?_eq_none_iff {f : Facade} {b : Nat} {name : Name} :
    (f.backends b).handles.find? name = none ↔ name ∉ f.names b := by
  simp [Handles.find?, names]

/-- Only the backend that is asked makes a handle, and not if it has one for the name. -/
theorem handles_fetch {f : Facade} {b i : Nat} {name : Name} (h : i = b → name ∈ f.names b) :
    ((f.fetch b name).2.backends i).handles = (f.backends i).handles := by
  show ((f.handle b name).2.backends i).handles = _
  unfold handle
  split
  · rfl
  · next missing =>
    have hi : i ≠ b := fun hi => find?_eq_none_iff.1 missing (h hi)
    simp [hi]

/-- After that, the backend has a handle for the name besides those it had. -/
theorem mem_names_fetch {f : Facade} {b : Nat} {name : Name} {i : Nat} {n : Name} :
    n ∈ (f.fetch b name).2.names i ↔ n ∈ f.names i ∨ i = b ∧ n = name := by
  by_cases hknown : name ∈ f.names b
  · rw [names, handles_fetch fun _ => hknown, ← names]
    constructor
    · exact .inl
    · rintro (h | ⟨rfl, rfl⟩)
      · exact h
      · exact hknown
  · show n ∈ ((f.handle b name).2.backends i).handles.map (·.name) ↔ _
    unfold handle
    rw [find?_eq_none_iff.2 hknown]
    by_cases hi : i = b
    · subst hi
      simp [names, Backend.nextHandle, Handles.next]
    · simp [names, hi]

end Facade

end LoggerTree
