import LoggerTree.Proofs.Call.Relayed
import LoggerTree.Proofs.Call.Uses

/-! # Who listens makes no difference

    Loggers are acquired without a look at the subscriber. Two states that agree on factories,
    loggers, handles and thresholds for new handles go on doing so, whatever their subscribers are
    and whatever calls come to in each of them.

    Main statements: `Resembles.step` and `Resembles.runUnder`.
-/

namespace LoggerTree

namespace Facade

/-- Two states agree on all that acquisitions go by. -/
structure Resembles (f g : Facade) : Prop where
  factories : g.factories = f.factories
  loggers : g.loggers = f.loggers
  handles : ∀ b, (g.backends b).handles = (f.backends b).handles
  /-- The thresholds that new handles would keep. -/
  thresholds : ∀ b, (g.backends b).thresholdFor? = (f.backends b).thresholdFor?

namespace Resembles

variable {f g h : Facade}

theorem refl (f : Facade) : f.Resembles f :=
  ⟨rfl, rfl, fun _ => rfl, fun _ => rfl⟩

theorem symm (hfg : f.Resembles g) : g.Resembles f where
  factories := hfg.factories.symm
  loggers := hfg.loggers.symm
  handles b := (hfg.handles b).symm
  thresholds b := (hfg.thresholds b).symm

theorem trans (hfg : f.Resembles g) (hgh : g.Resembles h) : f.Resembles h where
  factories := hgh.factories.trans hfg.factories
  loggers := hgh.loggers.trans hfg.loggers
  handles b := (hgh.handles b).trans (hfg.handles b)
  thresholds b := (hgh.thresholds b).trans (hfg.thresholds b)

theorem send (f : Facade) (e : Event) : f.Resembles (f.send e) where
  factories := factories_send f e
  loggers := loggers_send f e
  handles b := by rw [backends_send]
  thresholds b := by rw [backends_send]

theorem under (f : Facade) (allow : Target → Level → Bool) : f.Resembles (f.under allow) :=
  ⟨rfl, rfl, fun _ => rfl, fun _ => rfl⟩

/-- A change to a backend that leaves its handles alone. -/
theorem alterBackend (f : Facade) (b : Nat) {change : Backend → Backend}
    (hhandles : ∀ backend : Backend, (change backend).handles = backend.handles)
    (hthresholds : ∀ backend : Backend, (change backend).thresholdFor? = backend.thresholdFor?) :
    f.Resembles (f.alterBackend b change) where
  factories := rfl
  loggers := rfl
  handles := f.handles_alterBackend b hhandles
  thresholds := alterBackend_keeps Backend.thresholdFor? f b hthresholds

theorem note (f : Facade) (b : Nat) (e : Entry) : f.Resembles (f.alterBackend b (·.note e)) :=
  .alterBackend f b (Backend.handles_note e) (Backend.thresholdFor?_note e)

/-- Asking and emitting do not touch what acquisitions go by. -/
theorem closedUnderUse : ClosedUnderUse Resembles where
  refl := refl
  trans := trans
  query f l level := by
    unfold query
    split
    · exact .refl f
    · exact .note f _ _
  emit f l level message error := by
    unfold emit
    split
    · exact .send f _
    · dsimp only
      split <;> exact .note f _ _

/-! ### Acquiring loggers -/

theorem hold (hfg : f.Resembles g) (l : Logger) : (f.hold l).Resembles (g.hold l) where
  factories := hfg.factories
  loggers := congrArg (· ++ [l]) hfg.loggers
  handles := hfg.handles
  thresholds := hfg.thresholds

theorem addHandle (hfg : f.Resembles g) (b : Nat) (handle : Handle) :
    (f.alterBackend b (·.addHandle handle)).Resembles
      (g.alterBackend b (·.addHandle handle)) where
  factories := hfg.factories
  loggers := hfg.loggers
  handles i := by
    by_cases hi : i = b
    · subst hi
      rw [backends_alterBackend_self, backends_alterBackend_self, Backend.handles_addHandle,
        Backend.handles_addHandle, hfg.handles]
    · rw [backends_alterBackend_ne hi, backends_alterBackend_ne hi, hfg.handles]
  thresholds i := by
    have hkept (f : Facade) := alterBackend_keeps Backend.thresholdFor? f b
      (Backend.thresholdFor?_addHandle handle) i
    rw [hkept f, hkept g, hfg.thresholds]

theorem setFactory (hfg : f.Resembles g) (k : Nat) (factory : Factory) :
    (f.setFactory k factory).Resembles (g.setFactory k factory) where
  factories := by simp only [Facade.setFactory, hfg.factories]
  loggers := hfg.loggers
  handles := hfg.handles
  thresholds := hfg.thresholds

theorem handle (hfg : f.Resembles g) (b : Nat) (name : Name) :
    (g.handle b name).1 = (f.handle b name).1 ∧
      (f.handle b name).2.Resembles (g.handle b name).2 := by
  have hnext : (g.backends b).nextHandle name = (f.backends b).nextHandle name := by
    rw [Backend.nextHandle, Backend.nextHandle, hfg.handles, hfg.thresholds]
  unfold Facade.handle
  rw [hfg.handles, hnext]
  cases (f.backends b).handles.find? name with
  | some handle => exact ⟨rfl, hfg⟩
  | none =>
    have hsent := ((send f (.handleCreated name)).symm.trans hfg).trans
      (send g (.handleCreated name))
    exact ⟨rfl, hsent.addHandle b _⟩

theorem fetch (hfg : f.Resembles g) (b : Nat) (name : Name) :
    (g.fetch b name).1 = (f.fetch b name).1 ∧
      (f.fetch b name).2.Resembles (g.fetch b name).2 := by
  obtain ⟨hlogger, hafter⟩ := hfg.handle b name
  have hheld : (f.fetch b name).2.Resembles ((g.handle b name).2.hold (f.handle b name).1) :=
    hafter.hold _
  rw [← hlogger] at hheld
  exact ⟨hlogger, hheld⟩

theorem nameFor (hfg : f.Resembles g) (k : Nat) (raw : List Char) :
    (g.nameFor k raw).1 = (f.nameFor k raw).1 ∧
      (f.nameFor k raw).2.Resembles (g.nameFor k raw).2 := by
  unfold Facade.nameFor
  rw [hfg.factories]
  dsimp only
  split
  · exact ⟨rfl, hfg⟩
  · have hsent (e : Event) := ((send f e).symm.trans hfg).trans (send g e)
    exact ⟨rfl, (hsent _).setFactory k _⟩

theorem named (hfg : f.Resembles g) (k : Nat) (name : Name) :
    (g.named k name).1 = (f.named k name).1 ∧
      (f.named k name).2.Resembles (g.named k name).2 := by
  have hfetch := hfg.fetch (f.factories k).backend name
  unfold Facade.named
  rw [hfg.factories]
  exact hfetch

theorem loggerWith (hfg : f.Resembles g) (k : Nat) (context : Context) (strategy : Strategy) :
    (g.loggerWith k context strategy).1 = (f.loggerWith k context strategy).1 ∧
      (f.loggerWith k context strategy).2.Resembles (g.loggerWith k context strategy).2 := by
  have hsent (e : Event) := ((send f e).symm.trans hfg).trans (send g e)
  exact (hsent _).named k _

theorem loggerFor (hfg : f.Resembles g) (k : Nat) (raw : List Char) :
    (g.loggerFor k raw).1 = (f.loggerFor k raw).1 ∧
      (f.loggerFor k raw).2.Resembles (g.loggerFor k raw).2 := by
  obtain ⟨hname, hafter⟩ := hfg.nameFor k raw
  unfold Facade.loggerFor
  dsimp only
  rw [hname]
  exact hafter.named k _

theorem acquire (hfg : f.Resembles g) (k : Nat) (a : Acquisition) :
    (g.acquire k a).1 = (f.acquire k a).1 ∧
      (f.acquire k a).2.Resembles (g.acquire k a).2 := by
  have hcontext (context : Context) :
      (g.logger k context).1 = (f.logger k context).1 ∧
        (f.logger k context).2.Resembles (g.logger k context).2 := by
    unfold Facade.logger
    rw [hfg.factories]
    exact hfg.loggerWith k context _
  cases a with
  | type raw => exact hfg.loggerFor k raw
  | name text => exact hfg.named k _
  | module | context | singleton => exact hcontext _

/-! ### Commands -/

/-- **States that resemble each other go on doing so**, and they give the same replies to commands
    that use no loggers. -/
theorem step (hfg : f.Resembles g) (c : Command) :
    (f.step c).2.Resembles (g.step c).2 ∧
      (c.isUse = false → (g.step c).1 = (f.step c).1) := by
  by_cases huse : c.isUse = true
  · -- What is done with loggers may differ, but neither state changes by it.
    have hf := (performs_step (f := f) huse).within closedUnderUse
    have hg := (performs_step (f := g) huse).within closedUnderUse
    refine ⟨(hf.symm.trans hfg).trans hg, ?_⟩
    intro hnot
    rw [huse] at hnot
    cases hnot
  · rw [Bool.not_eq_true] at huse
    cases c with
    | acquire k a =>
      obtain ⟨hlogger, hafter⟩ := hfg.acquire k a
      exact ⟨hafter, fun _ => congrArg Reply.logger hlogger⟩
    | acquireWith k context strategy =>
      obtain ⟨hlogger, hafter⟩ := hfg.loggerWith k context strategy
      exact ⟨hafter, fun _ => congrArg Reply.logger hlogger⟩
    | acquireDirect b name =>
      obtain ⟨hlogger, hafter⟩ := hfg.fetch b name
      exact ⟨hafter, fun _ => congrArg Reply.logger hlogger⟩
    | nameFor k raw =>
      obtain ⟨hname, hafter⟩ := hfg.nameFor k raw
      exact ⟨hafter, fun _ => congrArg Reply.name hname⟩
    | clone number =>
      simp only [Facade.step, withLogger, hfg.loggers]
      cases f.loggers[number]? with
      | none => exact ⟨hfg, fun _ => rfl⟩
      | some l => exact ⟨hfg.hold l, fun _ => rfl⟩
    | setStrategy k strategy =>
      refine ⟨?_, fun _ => rfl⟩
      show (f.setStrategy k strategy).Resembles (g.setStrategy k strategy)
      unfold setStrategy
      rw [hfg.factories]
      exact hfg.setFactory k _
    | setDirectives b d =>
      have hset (f : Facade) := alterBackend f b (Backend.handles_setDirectives d)
        (Backend.thresholdFor?_setDirectives d)
      exact ⟨((hset f).symm.trans hfg).trans (hset g), fun _ => rfl⟩
    | clear b =>
      have hclear (f : Facade) := alterBackend f b Backend.handles_clear
        Backend.thresholdFor?_clear
      exact ⟨((hclear f).symm.trans hfg).trans (hclear g), fun _ => rfl⟩
    | query | call | emit => cases huse

/-- A history leads to the same under any subscribers. -/
theorem runUnder (hfg : f.Resembles g) (history : List ((Target → Level → Bool) × Command)) :
    (f.run (history.map (·.2))).Resembles (g.runUnder history) := by
  induction history generalizing f g with
  | nil => exact hfg
  | cons entry history ih =>
    obtain ⟨allow, c⟩ := entry
    exact ih ((hfg.trans (under g allow)).step c).1

end Resembles

end Facade

end LoggerTree
