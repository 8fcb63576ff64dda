import LoggerTree.Call

/-! # Guarded logging

    An **action** is what code does with the facade. It gives a value or ends in a panic, and what
    it has done before a panic stays done.

    A message is built by an action, its **builder**. There are two ways to log with a builder.
    The operations of a logger take the builder, and run it once the handle has said that the
    level is enabled. The short forms put query, builder and emission in the place where they are
    written.
-/

namespace LoggerTree

/-! ### Actions -/

/-- What an action has come to. -/
structure Ran (α : Type) where
  /-- The calls whose messages were started to be built, oldest first. -/
  built : List Call
  outcome : Facade.Outcome α
  after : Facade

/-- Something that code does with the facade. -/
def Action (α : Type) : Type :=
  Facade → Ran α

namespace Action

/-- Does what `next` makes of the value, unless there was a panic. -/
def andThen {α β : Type} (act : Action α) (next : α → Action β) : Action β := fun f =>
  match act f with
  | ⟨built, .error text, f⟩ => ⟨built, .error text, f⟩
  | ⟨built, .ok a, f⟩ =>
    let ran := next a f
    { ran with built := built ++ ran.built }

instance : Monad Action where
  pure a := fun f => ⟨[], .ok a, f⟩
  bind := andThen

/-- An operation of the facade, which builds no messages. -/
def ofOperation {α : Type} (operation : Facade → Facade.Outcome α × Facade) : Action α := fun f =>
  let (outcome, f) := operation f
  ⟨[], outcome, f⟩

/-- Ends in a panic. -/
def fail {α : Type} (text : String) : Action α := fun f =>
  ⟨[], .error text, f⟩

/-- Starts to build the message of a call. -/
def start (c : Call) : Action Unit := fun f =>
  ⟨[c], .ok (), f⟩

end Action

/-! ### Logging with a builder -/

namespace Logger

/-- Asks the handle whether a level is enabled. -/
def isEnabled (l : Logger) (level : Level) : Action Bool :=
  .ofOperation (·.query l level)

/-- Has the handle emit a message, without asking. -/
def emit (l : Logger) (level : Level) (message : String) (error : Option ErrorChain) :
    Action Unit :=
  .ofOperation (·.emit l level message error)

/-- The operation that takes the level. -/
def log (l : Logger) (level : Level) (build : Action String) : Action Unit := do
  if ← l.isEnabled level then
    let message ← build
    l.emit level message none

/-- The operation that takes the level and an error. -/
def logWith (l : Logger) (level : Level) (error : ErrorChain) (build : Action String) :
    Action Unit := do
  if ← l.isEnabled level then
    let message ← build
    l.emit level message (some error)

/-- The short form that takes the level, with or without an error. -/
def logBriefly (l : Logger) (level : Level) (error : Option ErrorChain) (build : Action String) :
    Action Unit :=
  match error with
  | some e => do
    if ← l.isEnabled level then
      l.emit level (← build) (some e)
  | none => do
    if ← l.isEnabled level then
      l.emit level (← build) none

end Logger

/-- Logs with a logger. The forms that go by a level are those that take it, applied to it. -/
def Shape.perform (shape : Shape) (l : Logger) (level : Level) (error : Option ErrorChain)
    (build : Action String) : Action Unit :=
  match shape, error with
  | method, none => l.log level build
  | method, some e => l.logWith level e build
  | generic, none => l.log level build
  | generic, some e => l.logWith level e build
  | brief, error => l.logBriefly level error build
  | briefGeneric, error => l.logBriefly level error build

namespace Call

/-! ### Carrying out calls -/

/-- The builder of a call, given what its inner calls do. -/
def build (c : Call) (inner : Action Unit) : Action String := do
  .start c
  inner
  match c.panic with
  | some text => .fail text
  | none => pure c.message

mutual

/-- Carries out a call. Without its logger it does nothing. -/
def run : Call → Action Unit
  | mk number level shape message error inner panic => fun f =>
    match f.loggers[number]? with
    | none => ⟨[], .ok (), f⟩
    | some l =>
      let c := mk number level shape message error inner panic
      shape.perform l level error (c.build (runAll inner)) f

/-- Carries out calls one after the other, up to the first panic. -/
def runAll : List Call → Action Unit
  | [] => pure ()
  | c :: cs => do
    run c
    runAll cs

end

end Call

end LoggerTree
