import LoggerTree.Context
import LoggerTree.Directives

/-! # Configurations

    A **configuration** says how singletons are named, which thresholds logger names have, and how
    the subscriber writes the events that reach it. Whatever is not said has a default.
-/

namespace LoggerTree

/-- How logger names come about. -/
structure NamingConfig where
  strategy : Strategy := .byType
  deriving DecidableEq

/-- Thresholds by logger name. -/
structure FilterConfig where
  /-- The threshold of names that no entry matches. -/
  fallback : Threshold := .atLeast .info
  /-- The thresholds of names as they were written, in code-point order. -/
  loggers : List (List Char × Threshold) := []
  deriving DecidableEq

/-- The form of a line of output. -/
inductive OutputFormat where
  | text
  | json
  deriving DecidableEq

namespace OutputFormat

/-- The word for a format. -/
def word : OutputFormat → String
  | text => "text"
  | json => "json"

/-- The capitalised word, as in `Json`. -/
def label (f : OutputFormat) : String :=
  f.word.capitalize

/-- The format for a word. -/
def ofWord? (s : String) : Option OutputFormat :=
  if s = "text" then some .text else if s = "json" then some .json else none

end OutputFormat

/-- How the subscriber filters and writes events. -/
structure SubscriberConfig where
  /-- The filter by event target, as it is written. -/
  level : List Char := "info".toList
  format : OutputFormat := .text
  /-- `stdout`, `stderr` or the path of a file to append to. -/
  output : List Char := "stderr".toList
  /-- Whether a terminal gets colours. -/
  color : Bool := true
  /-- Whether a line starts with the time. -/
  timestamps : Bool := true
  /-- Whether a line names the target of its event. -/
  target : Bool := true
  deriving DecidableEq

/-- A configuration. -/
structure Config where
  naming : NamingConfig := {}
  filter : FilterConfig := {}
  subscriber : SubscriberConfig := {}
  deriving DecidableEq

namespace Config

/-- What the entries for logger names assign. -/
def assignments (c : Config) : List Assignment :=
  c.filter.loggers.map fun (key, threshold) => (Name.ofChars key, threshold)

/-- The thresholds: the entries in code-point order of their keys, so that of two spellings of one
    name the later decides. -/
def directives (c : Config) : Directives :=
  ({ fallback := c.filter.fallback } : Directives).assignAll c.assignments

end Config

end LoggerTree
