import LoggerTree.Text.Hex

/-! # JSON values

    A value of JSON, and how it is written: without blanks, and with quotes, backslashes and
    control characters escaped in texts.
-/

namespace LoggerTree.Json

/-- A JSON value. -/
inductive Value where
  | null
  | boolean (b : Bool)
  /-- A number, as it is written. -/
  | number (written : List Char)
  | string (chars : List Char)
  | array (items : List Value)
  /-- Members in their order. Of two with one key the later one counts. -/
  | object (members : List (List Char × Value))

/-! ### Texts -/

/-- Four hexadecimal digits of the code of a control character. -/
def fourHex (c : Char) : List Char :=
  let digits := Text.hexDigits c.toNat
  List.replicate (4 - digits.length) '0' ++ digits

/-- How a character is written between quotes. -/
def writeChar (c : Char) : List Char :=
  match c with
  | '"' => ['\\', '"']
  | '\\' => ['\\', '\\']
  | '\x08' => ['\\', 'b']
  | '\t' => ['\\', 't']
  | '\n' => ['\\', 'n']
  | '\x0c' => ['\\', 'f']
  | '\r' => ['\\', 'r']
  | c => if c.toNat < 0x20 then '\\' :: 'u' :: fourHex c else [c]

/-- How a text is written. -/
def writeText (s : List Char) : List Char :=
  '"' :: s.flatMap writeChar ++ ['"']

/-! ### Values -/

mutual

/-- How a value is written. -/
def Value.write : Value → List Char
  | .null => ['n', 'u', 'l', 'l']
  | .boolean true => ['t', 'r', 'u', 'e']
  | .boolean false => ['f', 'a', 'l', 's', 'e']
  | .number written => written
  | .string chars => writeText chars
  | .array items => '[' :: writeItems items ++ [']']
  | .object members => '\x7b' :: writeMembers members ++ ['\x7d']

/-- Items with commas between them. -/
def writeItems : List Value → List Char
  | [] => []
  | [v] => v.write
  | v :: items => v.write ++ ',' :: writeItems items

/-- Members with commas between them. -/
def writeMembers : List (List Char × Value) → List Char
  | [] => []
  | [(key, v)] => writeText key ++ ':' :: v.write
  | (key, v) :: members => writeText key ++ ':' :: v.write ++ ',' :: writeMembers members

end

/-- A text as a value. -/
def text (s : String) : Value :=
  .string s.toList

/-- An object whose keys are strings. -/
def object (members : List (String × Value)) : Value :=
  .object (members.map fun (key, v) => (key.toList, v))

end LoggerTree.Json
