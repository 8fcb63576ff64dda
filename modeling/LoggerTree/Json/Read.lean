import LoggerTree.Json.Value
import LoggerTree.Text.Scan
import LoggerTree.Text.Split

/-! # Reading JSON

    A text is read as one value, with nothing but blanks around it. Brackets and braces may be
    nested to a limit. Numbers are kept as they are written.
-/

namespace LoggerTree.Json

/-- A reader takes characters from the front and gives the others back. -/
abbrev Reader (α : Type) := List Char → Option (α × List Char)

/-- Passes over blanks and line ends. -/
def skipBlanks (s : List Char) : List Char :=
  s.dropWhile fun c => c == ' ' || c == '\t' || c == '\n' || c == '\r'

/-! ### Texts -/

/-- The character for a code of four hexadecimal digits, or for a pair of such codes. Half a pair
    is no character. -/
def coded : Reader (List Char) := fun s => do
  let (high, s) ← Text.takeHex? 4 s
  if high < 0xD800 ∨ 0xDFFF < high then return ([Char.ofNat high], s)
  else if 0xDC00 ≤ high then none
  else
    match s with
    | '\\' :: 'u' :: s =>
      let (low, s) ← Text.takeHex? 4 s
      if low < 0xDC00 ∨ 0xDFFF < low then none
      else return ([Char.ofNat (0x10000 + (high - 0xD800) * 0x400 + (low - 0xDC00))], s)
    | _ => none

/-- What follows a backslash. -/
def escape : Reader (List Char)
  | '"' :: s => some (['"'], s)
  | '\\' :: s => some (['\\'], s)
  | '/' :: s => some (['/'], s)
  | 'b' :: s => some (['\x08'], s)
  | 'f' :: s => some (['\x0c'], s)
  | 'n' :: s => some (['\n'], s)
  | 'r' :: s => some (['\r'], s)
  | 't' :: s => some (['\t'], s)
  | 'u' :: s => coded s
  | _ => none

/-- A character or an escape. Control characters have to be escaped. -/
def piece : Reader (List Char)
  | '\\' :: s => escape s
  | c :: s => if c.toNat < 0x20 then none else some ([c], s)
  | [] => none

/-- A text whose opening quote is behind us. -/
def quotedBody : Reader (List Char) :=
  Text.scan (Text.closeQuote '"') piece

/-! ### Numbers -/

/-- Digits, of which there has to be one at least. -/
def digits : Reader (List Char) := fun s =>
  let found := s.takeWhile Char.isDigit
  if found.isEmpty then none else some (found, s.drop found.length)

/-- The digits in front of the point. None follow a zero. -/
def wholeDigits : Reader (List Char) := fun s => do
  let (found, rest) ← digits s
  if found.head? = some '0' ∧ 1 < found.length then none else return (found, rest)

/-- A part that begins with a mark, the mark included, or nothing where no mark stands. -/
def optionally (isMark : Char → Bool) (reader : Reader (List Char)) : Reader (List Char)
  | c :: s =>
    if isMark c then (reader s).map fun (found, rest) => (c :: found, rest)
    else some ([], c :: s)
  | [] => some ([], [])

/-- A power of ten behind its mark. -/
def power : Reader (List Char)
  | '+' :: s => (digits s).map fun (found, rest) => ('+' :: found, rest)
  | '-' :: s => (digits s).map fun (found, rest) => ('-' :: found, rest)
  | s => digits s

/-- A number with a minus sign or none. -/
def number : Reader (List Char) := fun s => do
  let (sign, s) := match s with
    | '-' :: s => (['-'], s)
    | s => ([], s)
  let (whole, s) ← wholeDigits s
  let (fraction, s) ← optionally (· == '.') digits s
  let (power, s) ← optionally (fun c => c == 'e' || c == 'E') power s
  return (sign ++ whole ++ fraction ++ power, s)

/-! ### Values -/

/-- Items with commas between them, one at least, up to a closing mark. -/
def itemsFrom {α : Type} (close : Char) (item : Reader α) (s : List Char) :
    Option (List α × List Char) :=
  match item (skipBlanks s) with
  | none => none
  | some (a, rest) =>
    match skipBlanks rest with
    | [] => none
    | c :: rest =>
      if c = close then some ([a], rest)
      else if c = ',' ∧ rest.length < s.length then
        (itemsFrom close item rest).map fun (as, rest) => (a :: as, rest)
      else none
termination_by s.length

/-- Items up to a closing mark. There may be none. -/
def itemsUntil {α : Type} (close : Char) (item : Reader α) : Reader (List α) := fun s =>
  match skipBlanks s with
  | [] => none
  | c :: rest => if c = close then some ([], rest) else itemsFrom close item s

/-- A key and its value. -/
def member (value : Reader Value) : Reader (List Char × Value)
  | '"' :: s => do
    let (key, s) ← quotedBody s
    match skipBlanks s with
    | ':' :: s =>
      let (v, s) ← value (skipBlanks s)
      return ((key, v), s)
    | _ => none
  | _ => none

/-- A word without quotes, or a number. -/
def scalar : Reader Value := fun s =>
  match Text.after? ['n', 'u', 'l', 'l'] s, Text.after? ['t', 'r', 'u', 'e'] s,
      Text.after? ['f', 'a', 'l', 's', 'e'] s with
  | some rest, _, _ => some (.null, rest)
  | none, some rest, _ => some (.boolean true, rest)
  | none, none, some rest => some (.boolean false, rest)
  | none, none, none => (number s).map fun (written, rest) => (.number written, rest)

/-- A value in which at most `depth` brackets and braces are open at a time. -/
def value : Nat → Reader Value
  | _, [] => none
  | depth, c :: s =>
    match c, depth with
    | '"', _ => (quotedBody s).map fun (chars, rest) => (.string chars, rest)
    | '[', depth + 1 =>
      (itemsUntil ']' (value depth) s).map fun (items, rest) => (.array items, rest)
    | '\x7b', depth + 1 =>
      (itemsUntil '\x7d' (member (value depth)) s).map fun (members, rest) =>
        (.object members, rest)
    | _, _ => scalar (c :: s)

/-- The number of brackets and braces that may be open at a time. -/
def depthLimit : Nat := 127

/-- Reads a text. -/
def read? (s : List Char) : Option Value := do
  let (v, rest) ← value depthLimit (skipBlanks s)
  if (skipBlanks rest).isEmpty then return v else none

end LoggerTree.Json
