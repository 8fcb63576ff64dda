import LoggerTree.Logging

/-! # The ways to write a call

    The operations that take a builder and the short forms are written apart, yet all of them are
    the same **guarded** emission: the query, then the builder, then the emission.

    Main statement: `runAll_plainAll`. Calls that differ in their shapes only, at any depth, come
    to the same, whatever the state they start from.
-/

namespace LoggerTree

/-! ### One call -/

/-- A message that is built and emitted only when its level is enabled. -/
def Logger.guarded (l : Logger) (level : Level) (error : Option ErrorChain)
    (build : Action String) : Action Unit := do
  if ← l.isEnabled level then
    l.emit level (← build) error

theorem Shape.perform_eq_guarded (shape : Shape) (l : Logger) (level : Level)
    (error : Option ErrorChain) (build : Action String) :
    shape.perform l level error build = l.guarded level error build := by
  cases shape with
  | method | generic =>
    -- The operations with and without an error are two.
    cases error <;> rfl
  | brief | briefGeneric =>
    -- The short form has an arm for each.
    cases error <;> rfl

/-! ### Calls without their shapes -/

namespace Call

mutual

/-- The call written by the operation that takes the level, and so its inner calls. -/
def plain : Call → Call
  | mk number level _ message error inner panic =>
    mk number level .generic message error (plainAll inner) panic

/-- The calls written by the operation that takes the level, and so their inner calls. -/
def plainAll : List Call → List Call
  | [] => []
  | c :: cs => plain c :: plainAll cs

end

theorem panic_plain (c : Call) : c.plain.panic = c.panic := by
  cases c
  simp only [plain, panic]

theorem message_plain (c : Call) : c.plain.message = c.message := by
  cases c
  simp only [plain, message]

end Call

/-- What an action comes to, shapes aside. -/
def Ran.plain {α : Type} (ran : Ran α) : Ran α :=
  { ran with built := ran.built.map Call.plain }

/-- The action with the calls it builds messages for written plainly. -/
def Action.plain {α : Type} (act : Action α) : Action α := fun f =>
  (act f).plain

namespace Action

variable {α β : Type}

theorem plain_bind (act : Action α) (next : α → Action β) :
    (act >>= next).plain = act.plain >>= fun a => (next a).plain := by
  funext f
  show (andThen act next f).plain = andThen act.plain (fun a => (next a).plain) f
  unfold andThen plain Ran.plain
  split
  · next hran => rw [hran]
  · next hran =>
    rw [hran]
    simp

theorem plain_ite (c : Bool) (act other : Action α) :
    (if c then act else other).plain = if c then act.plain else other.plain := by
  cases c <;> rfl

end Action

theorem Logger.plain_guarded (l : Logger) (level : Level) (error : Option ErrorChain)
    (build : Action String) :
    (l.guarded level error build).plain = l.guarded level error build.plain := by
  unfold guarded
  rw [Action.plain_bind]
  congr 1
  funext enabled
  rw [Action.plain_ite, Action.plain_bind]
  rfl

namespace Call

theorem plain_build (c : Call) (inner : Action Unit) :
    (c.build inner).plain = c.plain.build inner.plain := by
  unfold build
  rw [Action.plain_bind, panic_plain, message_plain]
  congr 1
  funext
  rw [Action.plain_bind]
  cases c.panic <;> rfl

/-- The shape of a call does not matter if those of its inner calls do not. -/
theorem run_plain (c : Call) (hinner : runAll (plainAll c.inner) = (runAll c.inner).plain) :
    c.plain.run = c.run.plain := by
  obtain ⟨number, level, shape, message, error, inner, panic⟩ := c
  rw [Call.inner] at hinner
  funext f
  unfold plain run Action.plain
  dsimp only
  split
  · rfl
  · next l _ =>
    rw [Shape.perform_eq_guarded, Shape.perform_eq_guarded, hinner]
    show _ = (l.guarded level error _).plain f
    rw [Logger.plain_guarded, plain_build, plain]

/-- **All ways to write calls come to the same.** Only the shapes differ in what gets built. -/
theorem runAll_plainAll (cs : List Call) : runAll (plainAll cs) = (runAll cs).plain := by
  induction cs using forest_induction with
  | nil => rfl
  | cons c cs hinner hrest =>
    unfold plainAll runAll
    rw [Action.plain_bind, run_plain c hinner, hrest]

end Call

end LoggerTree
