import LoggerTree.Config
import LoggerTree.Event
import LoggerTree.Json.Value
import LoggerTree.Text.Pad
import LoggerTree.Text.Quoted

/-! # Lines of output

    How an event is written: as a line of text, or as a JSON object on a line.
-/

namespace LoggerTree

/-- What a line shows besides level, message and fields. -/
structure Layout where
  format : OutputFormat := .text
  timestamps : Bool := true
  target : Bool := true
  deriving DecidableEq

namespace Layout

/-! ### Text -/

/-- How a character of a message or of an error is written, so that no terminal takes it for a
    command. -/
def tameChar (c : Char) : List Char :=
  if c ∈ ['\x07', '\x08', '\x0c', '\x1b', '\x7f'] then
    '\\' :: 'x' :: (if c.toNat < 0x10 then ['0'] else []) ++ Text.hexDigits c.toNat
  else if 0x80 ≤ c.toNat ∧ c.toNat ≤ 0x9F then '\\' :: 'u' :: Text.bracedHex c
  else [c]

/-- A message or the text of an error as lines of text have it. -/
def tame (s : String) : String :=
  String.ofList (s.toList.flatMap tameChar)

/-- A field of a line of text. An error with others behind it fills two. -/
def textField (key : String) : FieldValue → String
  | .text s => s!" {key}={Text.quoted s.toList}"
  | .shown s => s!" {key}={s}"
  | .error ⟨text, []⟩ => s!" {key}={tame text}"
  | .error ⟨text, causes⟩ =>
    s!" {key}={tame text} {key}.sources=[" ++ ", ".intercalate (causes.map tame) ++ "]"

/-- The name of a level, set flush right. -/
def levelColumn (l : Level) : String :=
  let column : Text.Padding := { align := .right, width := some 5 }
  String.ofList (column.apply l.display.toList)

/-- A line of text. -/
def textLine (layout : Layout) (stamp : String) (e : Event) : String :=
  (if layout.timestamps then stamp ++ " " else "") ++ levelColumn e.level ++ " " ++
  (if layout.target then e.target.word ++ ": " else "") ++ tame e.message ++
  String.join (e.fields.map fun (key, value) => textField key value) ++ "\n"

/-! ### JSON -/

/-- The value of a field as JSON has it. Of an error there is only its own text. -/
def jsonValue : FieldValue → Json.Value
  | .text s | .shown s => Json.text s
  | .error e => Json.text e.text

/-- An event as a JSON object. -/
def jsonObject (layout : Layout) (stamp : String) (e : Event) : Json.Value :=
  let fields := ("message", Json.text e.message) ::
    e.fields.map fun (key, value) => (key, jsonValue value)
  Json.object (
    (if layout.timestamps then [("timestamp", Json.text stamp)] else []) ++
    [("level", Json.text e.level.display), ("fields", Json.object fields)] ++
    (if layout.target then [("target", Json.text e.target.word)] else []))

/-- A JSON object on a line. -/
def jsonLine (layout : Layout) (stamp : String) (e : Event) : String :=
  String.ofList ((layout.jsonObject stamp e).write ++ ['\n'])

/-- An event in writing, with its line end. -/
def line (layout : Layout) (stamp : String) (e : Event) : String :=
  match layout.format with
  | .text => layout.textLine stamp e
  | .json => layout.jsonLine stamp e

end Layout

end LoggerTree
