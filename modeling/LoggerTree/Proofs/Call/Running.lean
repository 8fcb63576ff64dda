import LoggerTree.Proofs.Call.Nesting
import LoggerTree.Proofs.Call.Shapes

/-! # How calls run

    An action that follows another one starts where that one has ended, unless this was in a
    panic. So a call comes to what its query, its builder and its emission come to one after the
    other, and its builder to what its inner calls come to.

    Main statements: `Call.run_of_not_enabled`, `Call.run_of_panic` and `Call.run_of_message`, the
    three ways that a call can go. They are the same for all backends.
-/

namespace LoggerTree

/-! ### Running actions one after the other -/

namespace Action

variable {α β : Type} {act : Action α} {next : α → Action β} {f g : Facade} {built : List Call}

theorem bind_of_error {text : String} (h : act f = ⟨built, .error text, g⟩) :
    (act >>= next) f = ⟨built, .error text, g⟩ := by
  show andThen act next f = _
  rw [andThen, h]

theorem bind_of_ok {a : α} (h : act f = ⟨built, .ok a, g⟩) :
    (act >>= next) f = { next a g with built := built ++ (next a g).built } := by
  show andThen act next f = _
  rw [andThen, h]

end Action

namespace Logger

variable {l : Logger} {level : Level} {f g : Facade}

theorem guarded_of_enabled (h : l.isEnabled level f = ⟨[], .ok true, g⟩)
    (error : Option ErrorChain) (build : Action String) :
    l.guarded level error build f = (build >>= fun message => l.emit level message error) g := by
  rw [guarded, Action.bind_of_ok h]
  rfl

theorem guarded_of_not_enabled (h : l.isEnabled level f = ⟨[], .ok false, g⟩)
    (error : Option ErrorChain) (build : Action String) :
    l.guarded level error build f = ⟨[], .ok (), g⟩ := by
  rw [guarded, Action.bind_of_ok h]
  rfl

end Logger

/-- The outcome of something that may have ended in a panic. -/
def Facade.Outcome.ofPanic {α : Type} (a : α) : Option String → Facade.Outcome α
  | some text => .error text
  | none => .ok a

/-! ### The loggers of calls -/

namespace Facade

/-- All of the calls, the inner ones too, are on loggers of a backend. -/
def Serves (f : Facade) (b : Nat) (calls : List Call) : Prop :=
  ∀ c ∈ Call.nodesAll calls, ∃ l, f.loggers[c.logger]? = some l ∧ l.backend = b

theorem serves_cons {f : Facade} {b : Nat} {c : Call} {cs : List Call} :
    f.Serves b (c :: cs) ↔ (∃ l, f.loggers[c.logger]? = some l ∧ l.backend = b) ∧
      f.Serves b c.inner ∧ f.Serves b cs := by
  unfold Serves
  rw [Call.nodesAll, Call.nodes_eq]
  simp only [List.cons_append, List.forall_mem_cons, List.forall_mem_append]

end Facade

/-! ### One call -/

namespace Call

theorem run_eq_guarded {f : Facade} {c : Call} {l : Logger} (hl : f.loggers[c.logger]? = some l) :
    c.run f = l.guarded c.level c.error (c.build (runAll c.inner)) f := by
  obtain ⟨number, level, shape, message, error, inner, panic⟩ := c
  rw [Call.logger] at hl
  unfold run
  dsimp only
  rw [hl]
  dsimp only
  rw [Shape.perform_eq_guarded, Call.level, Call.error, Call.inner]

/-- A builder is started, does what the inner calls do, and gives the message unless there was a
    panic in them or there is one of its own. -/
theorem build_eq (c : Call) {inner : Action Unit} {f g : Facade} {built : List Call}
    {panic : Option String} (hinner : inner f = ⟨built, .ofPanic () panic, g⟩) :
    c.build inner f = ⟨c :: built, .ofPanic c.message (panic.or c.panic), g⟩ := by
  unfold build
  have hstart : Action.start c f = ⟨[c], .ok (), f⟩ := rfl
  rw [Action.bind_of_ok hstart]
  cases panic with
  | some text => rw [Action.bind_of_error hinner]; rfl
  | none =>
    rw [Action.bind_of_ok hinner]
    cases c.panic <;> simp [Action.fail, Facade.Outcome.ofPanic, pure]

section

variable {c : Call} {l : Logger} {f g h : Facade}

/-- The builder is not run, and with it none of the inner calls. -/
theorem run_of_not_enabled (hl : f.loggers[c.logger]? = some l)
    (hquery : l.isEnabled c.level f = ⟨[], .ok false, g⟩) : c.run f = ⟨[], .ok (), g⟩ := by
  rw [run_eq_guarded hl, Logger.guarded_of_not_enabled hquery]

/-- The builder ends in a panic, so that nothing is emitted. -/
theorem run_of_panic (hl : f.loggers[c.logger]? = some l)
    (hquery : l.isEnabled c.level f = ⟨[], .ok true, g⟩) {built : List Call}
    {panic : Option String} (hinner : runAll c.inner g = ⟨built, .ofPanic () panic, h⟩)
    {text : String} (hpanic : panic.or c.panic = some text) :
    c.run f = ⟨c :: built, .error text, h⟩ := by
  have hbuild := c.build_eq hinner
  rw [hpanic] at hbuild
  rw [run_eq_guarded hl, Logger.guarded_of_enabled hquery, Action.bind_of_error hbuild]

/-- The message is emitted where the builder has ended. -/
theorem run_of_message (hl : f.loggers[c.logger]? = some l)
    (hquery : l.isEnabled c.level f = ⟨[], .ok true, g⟩) {built : List Call}
    {panic : Option String} (hinner : runAll c.inner g = ⟨built, .ofPanic () panic, h⟩)
    (hpanic : panic.or c.panic = none) {after : Facade}
    (hemit : l.emit c.level c.message c.error h = ⟨[], .ok (), after⟩) :
    c.run f = ⟨c :: built, .ok (), after⟩ := by
  have hbuild := c.build_eq hinner
  rw [hpanic] at hbuild
  rw [run_eq_guarded hl, Logger.guarded_of_enabled hquery, Action.bind_of_ok hbuild, hemit,
    List.append_nil]

end

end Call

end LoggerTree
