/-! # Texts up to a closing quote

    A quoted text is read in **pieces**, such as a character or an escape, until its end is found.
-/

namespace LoggerTree.Text

/-- Reads the pieces of a text until `close` finds its end, which may hold characters of the text
    itself. -/
def scan (close piece : List Char → Option (List Char × List Char)) (s : List Char) :
    Option (List Char × List Char) :=
  match close s with
  | some found => some found
  | none =>
    match piece s with
    | some (chars, rest) =>
      if rest.length < s.length then
        (scan close piece rest).map fun (more, rest) => (chars ++ more, rest)
      else none
    | none => none
termination_by s.length

/-- The end of a text at a single quote sign. -/
def closeQuote (quote : Char) : List Char → Option (List Char × List Char)
  | c :: s => if c = quote then some ([], s) else none
  | [] => none

end LoggerTree.Text
