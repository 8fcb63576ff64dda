import LoggerTree.Level
import LoggerTree.Text.Quoted
import LoggerTree.Toml.Number
import LoggerTree.Toml.Report

/-! # Faults of a configuration

    Why a document is no configuration, and which part of it is at fault.
-/

namespace LoggerTree.Config

/-- Why a document is no configuration. -/
inductive Reason where
  /-- A section that there is not. -/
  | unknownField (name : List Char) (expected : List String)
  /-- A word that is not among those to choose from. -/
  | unknownVariant (name : List Char) (expected : List String)
  /-- A value of the wrong kind. -/
  | wrongKind (found : Toml.Value) (expected : String)
  /-- A choice that is neither a word nor a table. -/
  | noChoice
  /-- A choice written as a table with no key, or with more than one. -/
  | choiceCount (isEmpty : Bool)
  /-- The value beside the key of such a table is not empty. -/
  | choiceNotEmpty (container : String)
  /-- The value beside the key of such a table is no table. -/
  | choiceWithValue (found : String)
  /-- A word that is no threshold. -/
  | level (cause : LevelError)

/-- A word as reports show it. -/
def ticked (s : String) : String :=
  s!"`{s}`"

/-- The words to choose from. -/
def alternatives : List String → String
  | [a] => ticked a
  | [a, b] => s!"{ticked a} or {ticked b}"
  | words => "one of " ++ ", ".intercalate (words.map ticked)

/-- A value as reports on its kind show it. Dates and times count as tables. -/
def described : Toml.Value → String
  | .string s => s!"string {Text.quoted s}"
  | .integer n => s!"integer `{n}`"
  | .lookalike => "integer"
  | .float x => s!"floating point `{String.ofList (x.display?.getD [])}`"
  | .boolean b => s!"boolean `{b}`"
  | .array _ _ => "sequence"
  | .table _ _ | .datetime _ => "map"

/-- The name of a kind of value. -/
def kindWord : Toml.Value → String
  | .string _ => "string"
  | .integer _ | .lookalike => "integer"
  | .float _ => "float"
  | .boolean _ => "boolean"
  | .datetime _ => "datetime"
  | .array _ _ => "array"
  | .table _ _ => "table"

/-- What is wrong, in words. -/
def Reason.message : Reason → String
  | unknownField name expected =>
    s!"unknown field {ticked (String.ofList name)}, expected {alternatives expected}"
  | unknownVariant name expected =>
    s!"unknown variant {ticked (String.ofList name)}, expected {alternatives expected}"
  | wrongKind found expected => s!"invalid type: {described found}, expected {expected}"
  | noChoice => "wanted string or table"
  | choiceCount true => "wanted exactly 1 element, found 0 elements"
  | choiceCount false => "wanted exactly 1 element, more than 1 element"
  | choiceNotEmpty container => s!"expected empty {container}"
  | choiceWithValue found => s!"expected table, found {found}"
  | level cause => cause.message

/-- A reason and the part of the document that is at fault. -/
structure Fault where
  reason : Reason
  span : Toml.Span

/-- The report of a fault in the text of its document. -/
def Fault.report (f : Fault) (text : List Char) : String :=
  Toml.report text f.span f.reason.message

end LoggerTree.Config
