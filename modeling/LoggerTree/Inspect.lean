import LoggerTree.Config.Factory
import LoggerTree.Text.Quoted

/-! # Inspection texts

    How the parts of the facade are shown to somebody who looks for a mistake: each as its kind
    and its fields between braces.
-/

namespace LoggerTree.Inspect

/-! ### Shapes -/

/-- A kind and its fields. -/
def record (kind : String) (fields : List (String × String)) : String :=
  let field (f : String × String) : String := f.1 ++ ": " ++ f.2
  kind ++ " \x7b " ++ ", ".intercalate (fields.map field) ++ " \x7d"

/-- A kind and some of its fields. -/
def partialRecord (kind : String) (fields : List (String × String)) : String :=
  let field (f : String × String) : String := f.1 ++ ": " ++ f.2 ++ ", "
  kind ++ " \x7b " ++ String.join (fields.map field) ++ ".. \x7d"

/-- A list between brackets. -/
def list {α : Type} (item : α → String) (items : List α) : String :=
  "[" ++ ", ".intercalate (items.map item) ++ "]"

/-- A text between quotes. -/
def string (s : String) : String :=
  Text.quoted s.toList

/-- A value that may be missing. -/
def option {α : Type} (item : α → String) : Option α → String
  | some a => "Some(" ++ item a ++ ")"
  | none => "None"

/-- A value behind a lock. -/
def locked (kind data : String) : String :=
  partialRecord kind [("data", data), ("poisoned", "false")]

/-! ### Names and thresholds -/

/-- A name. -/
def name (n : Name) : String :=
  "LoggerName(" ++ Text.quoted n.chars ++ ")"

/-- A rule. -/
def rule (r : Rule) : String :=
  "(" ++ name r.name ++ ", " ++ r.threshold.label ++ ")"

/-- Directives. -/
def directives (d : Directives) : String :=
  record "Directives" [("default", d.fallback.label), ("rules", list rule d.rules)]

/-! ### Backends -/

/-- A message that reached a backend. -/
def journalRecord (r : Record) : String :=
  record "Record" [("logger", name r.logger), ("level", r.level.label),
    ("message", string r.message), ("error", option string r.error)]

/-- A call that a handle got. -/
def entry : Entry → String
  | .queried logger level enabled =>
    record "Enabled" [("logger", name logger), ("level", level.label),
      ("enabled", toString enabled)]
  | .emitted r => "Emit(" ++ journalRecord r ++ ")"

/-- The handles of a backend. -/
def handles (hs : Handles) : String :=
  record "HandleCache" [("handles", toString hs.length)]

/-- A backend. -/
def backend : Backend → String
  | .capture c =>
    record "CaptureBackend" [
      ("shared", record "Shared" [("directives", locked "RwLock" (directives c.directives)),
        ("calls", locked "Mutex" (list entry c.journal))]),
      ("handles", handles c.handles)]
  | .relay r =>
    record "TracingBackend" [("directives", directives r.directives),
      ("handles", handles r.handles)]

/-! ### Loggers and factories -/

/-- A logger. -/
def logger (l : Logger) : String :=
  record "Logger" [("name", name l.name)]

/-- How logger names come about. -/
def naming (strategy : Strategy) : String :=
  record "NamingConfig" [("strategy", strategy.label)]

/-- A factory. -/
def factory (k : Factory) : String :=
  partialRecord "LoggerFactory" [("naming", naming k.strategy),
    ("cached_types", toString k.typeCount)]

/-! ### Configurations -/

/-- The thresholds of names as they were written. -/
def loggers (entries : List (List Char × Threshold)) : String :=
  let entry (e : List Char × Threshold) : String := Text.quoted e.1 ++ ": " ++ e.2.label
  "\x7b" ++ ", ".intercalate (entries.map entry) ++ "\x7d"

/-- A configuration. -/
def config (c : Config) : String :=
  record "Config" [
    ("naming", naming c.naming.strategy),
    ("filter", record "FilterConfig" [("default", c.filter.fallback.label),
      ("loggers", loggers c.filter.loggers)]),
    ("subscriber", record "SubscriberConfig" [
      ("level", Text.quoted c.subscriber.level), ("format", c.subscriber.format.label),
      ("output", Text.quoted c.subscriber.output), ("color", toString c.subscriber.color),
      ("timestamps", toString c.subscriber.timestamps),
      ("target", toString c.subscriber.target)])]

end LoggerTree.Inspect
