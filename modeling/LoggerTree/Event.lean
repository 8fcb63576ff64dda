import LoggerTree.Context
import LoggerTree.Level

/-! # Events

    What is sent to the subscriber: the messages that loggers emit, and diagnostics about the
    facade itself. An event has a target, a level, a message and named fields.
-/

namespace LoggerTree

/-! ### Parts of events -/

/-- Whom an event is for. -/
inductive Target where
  /-- The messages of loggers. -/
  | application
  /-- Diagnostics about the facade. -/
  | internal
  deriving DecidableEq

/-- The name of a target. -/
def Target.word : Target → String
  | application => "lazylog"
  | internal => "lazylog::internal"

/-- An error's text and the texts of the errors behind it, outermost first. -/
structure ErrorChain where
  text : String
  causes : List String := []
  deriving DecidableEq

/-- The value of a field. -/
inductive FieldValue where
  /-- A text, which lines of text show between quotes. -/
  | text (s : String)
  /-- A value that is shown as it is. -/
  | shown (s : String)
  | error (e : ErrorChain)
  deriving DecidableEq

/-! ### Events -/

/-- An event. -/
inductive Event where
  /-- A logger emits a message. -/
  | emitted (logger : Name) (level : Level) (message : String) (error : Option ErrorChain)
  /-- A backend makes a handle. -/
  | handleCreated (logger : Name)
  /-- A factory has resolved a context. -/
  | nameResolved (logger : Name) (strategy : Strategy)
  /-- A factory caches the name of a type. -/
  | nameCached (logger : Name) (typeText : List Char)
  /-- A configuration file is about to be read. -/
  | configLoading (path : List Char)
  /-- A subscriber has been installed. -/
  | subscriberInstalled (level output : List Char)
  deriving DecidableEq

namespace Event

/-- Whom an event is for. -/
def target : Event → Target
  | emitted .. => .application
  | _ => .internal

/-- The level of an event. -/
def level : Event → Level
  | emitted _ l _ _ => l
  | handleCreated _ | nameResolved .. => .trace
  | nameCached .. | configLoading _ => .debug
  | subscriberInstalled .. => .info

/-- The message of an event. -/
def message : Event → String
  | emitted _ _ m _ => m
  | handleCreated _ => "creating backend logger handle"
  | nameResolved .. => "resolved logger name"
  | nameCached .. => "caching logger name"
  | configLoading _ => "loading configuration"
  | subscriberInstalled .. => "tracing subscriber installed"

/-- The fields of an event besides its message, in their order. -/
def fields : Event → List (String × FieldValue)
  | emitted logger _ _ error =>
    ("logger", .text logger.toString) :: (error.map fun e => ("error", .error e)).toList
  | handleCreated logger => [("logger", .shown logger.toString)]
  | nameResolved logger strategy =>
    [("logger", .shown logger.toString), ("strategy", .shown strategy.label)]
  | nameCached logger typeText =>
    [("logger", .shown logger.toString), ("type_name", .text (String.ofList typeText))]
  | configLoading path => [("path", .shown (String.ofList path))]
  | subscriberInstalled level output =>
    [("level", .shown (String.ofList level)), ("output", .shown (String.ofList output))]

end Event

end LoggerTree
