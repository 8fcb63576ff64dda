import LoggerTree.Config.Decode
import LoggerTree.Toml.Document

/-! # Configurations in writing

    A configuration is read from the text of a TOML document.
-/

namespace LoggerTree.Config

/-- Why a text gives no configuration. -/
inductive TextError where
  /-- It is no document that a reader can hold. -/
  | noDocument
  /-- The document is at fault. -/
  | fault (text : List Char) (fault : Fault)

namespace TextError

/-- The report of a fault. What makes a text no document is left open. -/
def report? : TextError → Option String
  | noDocument => none
  | fault text f => some (f.report text)

end TextError

/-- Whether the values that a configuration leaves aside can be held: integers have up to 128 bits
    there. Sections written as arrays leave items aside unseen. -/
def passesOver (entries : Toml.Entries) : Bool :=
  entries.all fun (_, _, v) =>
    match v with
    | .table _ inner => Toml.entriesHold (Toml.fitsEither 128) inner
    | _ => true

/-- Reads a configuration. A document at fault that also has a number beyond 64 bits counts as no
    document. -/
def parse (text : List Char) : Except TextError Config :=
  match Toml.Document.parse? text with
  | none => .error .noDocument
  | some entries =>
    match decode entries with
    | .ok config => if passesOver entries then .ok config else .error .noDocument
    | .error fault =>
      if Toml.entriesHold (Toml.fitsSigned 64) entries then .error (.fault text fault)
      else .error .noDocument

end LoggerTree.Config
