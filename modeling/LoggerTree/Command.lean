import LoggerTree.Acquisition
import LoggerTree.Logging

/-! # Histories of the facade

    A **command** is one thing that code does with the facade. A **history** is a list of
    commands, carried out one after the other.
-/

namespace LoggerTree

/-- One thing to do with the facade. Backends and factories go by their numbers, loggers by their
    place among those that have been handed out. -/
inductive Command where
  /-- Get a logger from a factory. -/
  | acquire (factory : Nat) (a : Acquisition)
  | acquireWith (factory : Nat) (context : Context) (strategy : Strategy)
  /-- Get a logger from a backend, past all factories. -/
  | acquireDirect (backend : Nat) (name : Name)
  | nameFor (factory : Nat) (typeText : List Char)
  /-- Hand out a logger once more. -/
  | clone (logger : Nat)
  | query (logger : Nat) (level : Level)
  | call (call : Call)
  /-- Emit a message without asking whether its level is enabled. -/
  | emit (logger : Nat) (level : Level) (message : String) (error : Option ErrorChain)
  | setStrategy (factory : Nat) (strategy : Strategy)
  | setDirectives (backend : Nat) (directives : Directives)
  | clear (backend : Nat)

/-- What a command gives back. -/
inductive Reply where
  | logger (l : Logger)
  | name (n : Name)
  | enabled (b : Bool)
  /-- The number of messages that were built. -/
  | built (n : Nat)
  | done
  | panicked (text : String)
  /-- No logger has been handed out under this number. -/
  | noLogger (number : Nat)

namespace Reply

/-- The reply for the outcome of an operation. -/
def ofOutcome {α : Type} (reply : α → Reply) : Facade.Outcome α → Reply
  | .ok a => reply a
  | .error text => panicked text

end Reply

namespace Facade

/-- Does something with a logger that goes by its number. -/
def withLogger (f : Facade) (number : Nat) (act : Logger → Reply × Facade) : Reply × Facade :=
  match f.loggers[number]? with
  | some l => act l
  | none => (.noLogger number, f)

/-- Carries out a command. -/
def step (f : Facade) : Command → Reply × Facade
  | .acquire k a =>
    let (l, f) := f.acquire k a
    (.logger l, f)
  | .acquireWith k context strategy =>
    let (l, f) := f.loggerWith k context strategy
    (.logger l, f)
  | .acquireDirect b name =>
    let (l, f) := f.handle b name
    (.logger l, f.hold l)
  | .nameFor k raw =>
    let (n, f) := f.nameFor k raw
    (.name n, f)
  | .clone i => f.withLogger i fun l => (.logger l, f.hold l)
  | .query i level => f.withLogger i fun l =>
    let (outcome, f) := f.query l level
    (.ofOutcome .enabled outcome, f)
  | .call c =>
    let ran := c.run f
    (.ofOutcome (fun _ => .built ran.built.length) ran.outcome, ran.after)
  | .emit i level message error => f.withLogger i fun l =>
    let (outcome, f) := f.emit l level message error
    (.ofOutcome (fun _ => .done) outcome, f)
  | .setStrategy k strategy => (.done, f.setStrategy k strategy)
  | .setDirectives b d => (.done, f.alterBackend b (·.setDirectives d))
  | .clear b => (.done, f.alterBackend b (·.clear))

/-- The state after a history. -/
def run (f : Facade) (history : List Command) : Facade :=
  history.foldl (fun f c => (f.step c).2) f

@[simp] theorem run_nil (f : Facade) : f.run [] = f := rfl

@[simp] theorem run_cons (f : Facade) (c : Command) (history : List Command) :
    f.run (c :: history) = (f.step c).2.run history := rfl

theorem run_append (f : Facade) (first second : List Command) :
    f.run (first ++ second) = (f.run first).run second :=
  List.foldl_append

end Facade

end LoggerTree
