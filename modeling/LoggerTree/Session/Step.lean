import LoggerTree.Command
import LoggerTree.Failure

/-! # Steps of a session

    What a session can be asked to do, and what it answers. Loggers go by the order in which they
    were acquired, starting from zero.
-/

namespace LoggerTree.Session

/-- Why a step cannot be done. -/
inductive StepError where
  | failure (cause : Failure)
  | strategy (cause : StrategyError)
  /-- There is no logger with this number. -/
  | noLogger (number : Nat)

/-- What can be inspected. -/
inductive Inspected where
  | logger (number : Nat)
  | factory
  | backend

/-- One thing to do. -/
inductive Step where
  | acquire (a : Acquisition)
  | acquireWith (context : Context) (strategy : Strategy)
  | nameFor (raw : List Char)
  | clone (logger : Nat)
  | query (logger : Nat) (level : Level)
  | call (call : Call)
  /-- Emit a message by a name, without asking whether its level is enabled. -/
  | emit (name : List Char) (level : Level) (message : String) (error : Option ErrorChain)
  | setDirectives (directives : Directives)
  | clear
  | counts
  | naming
  | setStrategy (strategy : Strategy)
  | newFactory (strategy? : Option Strategy)
  | inspect (what : Inspected)
  /-- Make a factory the one that is used in want of another. -/
  | setGlobal (strategy? : Option Strategy)
  | install (config : SubscriberConfig)
  /-- Acquire a logger from the global factory. -/
  | acquireGlobal (a : Acquisition)
  /-- The same, but only the first time; later on it is the same logger. -/
  | acquireOnce (a : Acquisition)
  /-- A step whose arguments could not be read. -/
  | rejected (cause : StepError)

/-- What a backend and a factory have come to. -/
inductive Counts where
  | capture (c : Capture) (types : Nat)
  | relay (r : Relay) (types : Nat)
  | config (directives : Directives) (types : Nat)

/-- What a step answers. -/
inductive Answer where
  | logger (number : Nat) (name : Name)
  | name (n : Name)
  | enabled (b : Bool)
  | built (n : Nat)
  | done
  | counts (c : Counts)
  | strategy (s : Strategy)
  | text (s : String)
  | panicked (text : String)
  | failed (cause : StepError)

end LoggerTree.Session
