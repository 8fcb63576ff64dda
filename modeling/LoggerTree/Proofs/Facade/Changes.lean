import LoggerTree.Command
import LoggerTree.Proofs.Call.Shapes
import Mathlib.Logic.Relation

/-! # What changes in the facade

    Whatever code does with the facade comes down to a few **changes**. A command makes any number
    of them, and a call as many as its inner calls ask for.

    Main statement: `run_keeps`. What every change keeps is kept by every history.
-/

namespace LoggerTree

open Relation (ReflTransGen)

namespace Facade

/-! ### Changes -/

/-- Something that happens to the facade in one go. -/
inductive Change : Facade → Facade → Prop where
  /-- An event is sent to the subscriber. -/
  | sent (f : Facade) (e : Event) : Change f (f.send e)
  /-- A backend makes its handle for a name. -/
  | made (f : Facade) (b : Nat) (name : Name) (fresh : (f.backends b).handles.find? name = none) :
    Change f (f.alterBackend b (·.addHandle ((f.backends b).nextHandle name)))
  /-- A handle of a backend is handed out. -/
  | held (f : Facade) (l : Logger) (known : l.handle ∈ (f.backends l.backend).handles) :
    Change f (f.hold l)
  /-- A logger is handed out once more. -/
  | again (f : Facade) (l : Logger) (known : l ∈ f.loggers) : Change f (f.hold l)
  /-- A factory keeps the name of a type. -/
  | cached (f : Facade) (k : Nat) (raw : List Char)
    (fresh : (f.factories k).typeName? raw = none) :
    Change f (f.setFactory k { f.factories k with
      typeNames := (f.factories k).typeNames ++ [(raw, (f.factories k).resolveType raw)] })
  /-- A factory gets another strategy. -/
  | renamed (f : Facade) (k : Nat) (strategy : Strategy) : Change f (f.setStrategy k strategy)
  /-- A backend gets an entry for its journal. -/
  | noted (f : Facade) (b : Nat) (e : Entry) : Change f (f.alterBackend b (·.note e))
  /-- A backend gets other thresholds. -/
  | directed (f : Facade) (b : Nat) (d : Directives) :
    Change f (f.alterBackend b (·.setDirectives d))
  /-- The journal of a backend is emptied. -/
  | cleared (f : Facade) (b : Nat) : Change f (f.alterBackend b (·.clear))

/-- Any number of changes. -/
abbrev Changes : Facade → Facade → Prop :=
  ReflTransGen Change

/-! ### Acquiring loggers -/

theorem backend_handle (f : Facade) (b : Nat) (name : Name) :
    (f.handle b name).1.backend = b := by
  unfold handle
  split <;> rfl

/-- A backend has the handles that it gives. -/
theorem mem_handles_handle (f : Facade) (b : Nat) (name : Name) :
    (f.handle b name).1.handle ∈ ((f.handle b name).2.backends b).handles := by
  unfold handle
  split
  · next h found => exact List.mem_of_find?_eq_some found
  · simp

theorem changes_handle (f : Facade) (b : Nat) (name : Name) :
    f.Changes (f.handle b name).2 := by
  unfold handle
  split
  · exact .refl
  · next missing =>
    -- The event is sent first, and the backend is then still without the handle.
    have hsame : (f.send (.handleCreated name)).backends b = f.backends b := by simp
    have hmade := Change.made (f.send (.handleCreated name)) b name (by rwa [hsame])
    rw [hsame] at hmade
    exact (ReflTransGen.single (.sent f _)).tail hmade

/-- Getting a handle of a backend and handing it out. -/
theorem changes_hold_handle (f : Facade) (b : Nat) (name : Name) :
    f.Changes ((f.handle b name).2.hold (f.handle b name).1) := by
  refine (changes_handle f b name).tail (.held _ _ ?_)
  rw [backend_handle]
  exact mem_handles_handle f b name

theorem changes_named (f : Facade) (k : Nat) (name : Name) : f.Changes (f.named k name).2 :=
  changes_hold_handle f (f.factories k).backend name

theorem changes_loggerWith (f : Facade) (k : Nat) (context : Context) (strategy : Strategy) :
    f.Changes (f.loggerWith k context strategy).2 :=
  .head (.sent f _) (changes_named _ k _)

theorem changes_nameFor (f : Facade) (k : Nat) (raw : List Char) :
    f.Changes (f.nameFor k raw).2 := by
  unfold nameFor
  simp only
  split
  · exact .refl
  · next missing =>
    have hsame (name : Name) : (f.send (.nameCached name raw)).factories k = f.factories k := by
      simp
    have hcached := Change.cached (f.send (.nameCached ((f.factories k).resolveType raw) raw)) k
      raw (by rwa [hsame])
    rw [hsame] at hcached
    exact (ReflTransGen.single (.sent f _)).tail hcached

theorem changes_loggerFor (f : Facade) (k : Nat) (raw : List Char) :
    f.Changes (f.loggerFor k raw).2 :=
  (changes_nameFor f k raw).trans (changes_named _ k _)

theorem changes_acquire (f : Facade) (k : Nat) (a : Acquisition) :
    f.Changes (f.acquire k a).2 := by
  cases a with
  | module path => exact changes_loggerWith f k _ _
  | type raw => exact changes_loggerFor f k raw
  | name text => exact changes_named f k _
  | context c => exact changes_loggerWith f k c _
  | singleton path symbol raw? => exact changes_loggerWith f k _ _

/-! ### Using loggers -/

theorem changes_query (f : Facade) (l : Logger) (level : Level) :
    f.Changes (f.query l level).2 := by
  unfold query
  split
  · exact .refl
  · exact .single (.noted f _ _)

theorem changes_emit (f : Facade) (l : Logger) (level : Level) (message : String)
    (error : Option ErrorChain) : f.Changes (f.emit l level message error).2 := by
  unfold emit
  split
  · exact .single (.sent f _)
  · simp only
    split <;> exact .single (.noted f _ _)

/-- A relation that leads from a state to all those that asking and emitting lead to from it. -/
structure ClosedUnderUse (R : Facade → Facade → Prop) : Prop where
  refl : ∀ f, R f f
  trans : ∀ {f g h}, R f g → R g h → R f h
  query : ∀ (f : Facade) (l : Logger) (level : Level), R f (f.query l level).2
  emit : ∀ (f : Facade) (l : Logger) (level : Level) (message : String)
    (error : Option ErrorChain), R f (f.emit l level message error).2

theorem closedUnderUse_changes : ClosedUnderUse Changes where
  refl _ := .refl
  trans := .trans
  query := changes_query
  emit := changes_emit

end Facade

/-! ### Actions -/

namespace Action

variable {α β : Type}

/-- Whatever it starts from, the action makes changes only. -/
def OnlyChanges (act : Action α) : Prop :=
  ∀ f : Facade, f.Changes (act f).after

/-- Whatever it starts from, the action ends where the relation leads. -/
def Within (R : Facade → Facade → Prop) (act : Action α) : Prop :=
  ∀ f : Facade, R f (act f).after

variable {R : Facade → Facade → Prop}

theorem Within.bind (hR : Facade.ClosedUnderUse R) {act : Action α} {next : α → Action β}
    (hact : act.Within R) (hnext : ∀ a, (next a).Within R) : (act >>= next).Within R := by
  intro f
  have hfirst := hact f
  show R f (andThen act next f).after
  unfold andThen
  -- A panic ends the action there; what has been done until then stays.
  split
  · next hran =>
    rw [hran] at hfirst
    exact hfirst
  · next a g hran =>
    rw [hran] at hfirst
    exact hR.trans hfirst (hnext a g)

end Action

section Use

variable {R : Facade → Facade → Prop}

theorem Logger.within_guarded (hR : Facade.ClosedUnderUse R) (l : Logger) (level : Level)
    (error : Option ErrorChain) {build : Action String} (hbuild : build.Within R) :
    (l.guarded level error build).Within R := by
  unfold guarded
  refine .bind hR (fun f => hR.query f l level) fun enabled => ?_
  cases enabled with
  | false => exact hR.refl
  | true => exact hbuild.bind hR fun message f => hR.emit f l level message error

namespace Call

theorem within_build (hR : Facade.ClosedUnderUse R) (c : Call) {inner : Action Unit}
    (hinner : inner.Within R) : (c.build inner).Within R := by
  unfold build
  -- To start, to panic and to give the message leave the facade alone.
  refine .bind hR hR.refl fun _ => hinner.bind hR fun _ => ?_
  cases c.panic <;> exact hR.refl

theorem within_run (hR : Facade.ClosedUnderUse R) (c : Call)
    (hinner : (runAll c.inner).Within R) : c.run.Within R := by
  obtain ⟨number, level, shape, message, error, inner, panic⟩ := c
  intro f
  unfold run
  dsimp only
  split
  · exact hR.refl f
  · next l _ =>
    rw [Shape.perform_eq_guarded]
    exact l.within_guarded hR level error (within_build hR _ hinner) f

/-- Calls end where asking and emitting lead. -/
theorem within_runAll (hR : Facade.ClosedUnderUse R) (cs : List Call) :
    (runAll cs).Within R := by
  induction cs using forest_induction with
  | nil => exact hR.refl
  | cons c cs hinner hrest => exact (within_run hR c hinner).bind hR fun _ => hrest

theorem onlyChanges_run (c : Call) : c.run.OnlyChanges :=
  within_run Facade.closedUnderUse_changes c (within_runAll Facade.closedUnderUse_changes c.inner)

end Call

end Use

/-! ### Histories -/

namespace Facade

theorem changes_step (f : Facade) (c : Command) : f.Changes (f.step c).2 := by
  cases c with
  | acquire k a => exact changes_acquire f k a
  | acquireWith k context strategy => exact changes_loggerWith f k context strategy
  | acquireDirect b name => exact changes_hold_handle f b name
  | nameFor k raw => exact changes_nameFor f k raw
  | clone i =>
    simp only [step, withLogger]
    split
    · next l hl => exact .single (.again f l (List.mem_of_getElem? hl))
    · exact .refl
  | query i level =>
    simp only [step, withLogger]
    split
    · next l _ => exact changes_query f l level
    · exact .refl
  | call c => exact c.onlyChanges_run f
  | emit i level message error =>
    simp only [step, withLogger]
    split
    · next l _ => exact changes_emit f l level message error
    · exact .refl
  | setStrategy k strategy => exact .single (.renamed f k strategy)
  | setDirectives b d => exact .single (.directed f b d)
  | clear b => exact .single (.cleared f b)

theorem changes_run (f : Facade) (history : List Command) : f.Changes (f.run history) := by
  induction history generalizing f with
  | nil => exact .refl
  | cons c history ih => exact (changes_step f c).trans (ih _)

theorem Changes.keeps {P : Facade → Prop} (hkeep : ∀ f g, Change f g → P f → P g) {f g : Facade}
    (hchanges : f.Changes g) (hf : P f) : P g := by
  induction hchanges with
  | refl => exact hf
  | tail _ hchange ih => exact hkeep _ _ hchange ih

/-- **What every change keeps is kept by every history.** -/
theorem run_keeps {P : Facade → Prop} (hkeep : ∀ f g, Change f g → P f → P g) {f : Facade}
    (hf : P f) (history : List Command) : P (f.run history) :=
  (changes_run f history).keeps hkeep hf

theorem interest_run (f : Facade) (history : List Command) :
    (f.run history).interest = f.interest := by
  refine run_keeps (P := fun g => g.interest = f.interest) ?_ rfl history
  intro g h hchange hg
  cases hchange with
  | sent e => rwa [interest_send]
  | made | held | again | cached | renamed | noted | directed | cleared => exact hg

end Facade

end LoggerTree
