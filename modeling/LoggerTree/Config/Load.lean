import LoggerTree.Config.Text
import LoggerTree.Files

/-! # Configuration files

    Reading a configuration from a file, and what can go wrong with it.
-/

namespace LoggerTree.Config

/-- Why a file gives no configuration. -/
inductive LoadError where
  | unreadable (path : List Char) (cause : FileError)
  | text (cause : TextError)

namespace LoadError

/-- The text of the error behind this one, if it is known. -/
def cause? : LoadError → Option String
  | unreadable _ cause => some cause.message
  | text cause => cause.report?

/-- What is wrong, in words, if they are known. -/
def message? : LoadError → Option String
  | unreadable path cause =>
    some s!"failed to read config file '{String.ofList path}': {cause.message}"
  | text cause => cause.report?.map fun report => s!"failed to parse config: {report}"

end LoadError

/-- Reads a configuration from its text. -/
def ofText (text : List Char) : Except LoadError Config :=
  (parse text).mapError .text

/-- The configuration in what was read from a file. -/
def ofRead (path : List Char) (content : Except FileError String) : Except LoadError Config := do
  ofText (← content.mapError (.unreadable path)).toList

/-- Reads a configuration from a file. -/
def load (files : Files) (path : List Char) : Except LoadError Config :=
  ofRead path (files.read path)

end LoggerTree.Config
