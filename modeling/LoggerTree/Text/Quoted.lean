import LoggerTree.Text.Hex
import LoggerTree.Text.Printable

/-! # Quoted text

    A text between double quotes. Quotes and backslashes get a backslash, line ends, tabs and NUL
    have short escapes, and every other character that does not print is written as its code
    point in hexadecimal, as in `\u{301}`.
-/

namespace LoggerTree.Text

/-- The code point of a character between braces, as in `{301}`. -/
def bracedHex (c : Char) : List Char :=
  '\x7b' :: hexDigits c.toNat ++ ['\x7d']

/-- How a character is written between quotes. -/
def quoteChar (c : Char) : List Char :=
  match c with
  | '\x00' => ['\\', '0']
  | '\t' => ['\\', 't']
  | '\r' => ['\\', 'r']
  | '\n' => ['\\', 'n']
  | '"' => ['\\', '"']
  | '\\' => ['\\', '\\']
  | c => if isPrintable c then [c] else '\\' :: 'u' :: bracedHex c

/-- A text between double quotes. -/
def quote (s : List Char) : List Char :=
  '"' :: s.flatMap quoteChar ++ ['"']

/-- A string between double quotes. -/
def quoted (s : List Char) : String :=
  String.ofList (quote s)

end LoggerTree.Text
