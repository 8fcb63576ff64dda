import LoggerTree.Text.Split
import LoggerTree.Toml.Value

/-! # Reports on a document

    A fault of a document is reported with the line it is on, and with carets below the part that
    is at fault. Lines and columns are counted from one, columns in characters.
-/

namespace LoggerTree.Toml

/-- The line that a byte of a text is on. -/
structure Place where
  /-- The number of lines above. -/
  above : Nat
  /-- The number of characters to the left. -/
  left : Nat
  /-- The line without its line end. -/
  line : List Char

namespace Place

/-- The place of the byte `offset` of a text. -/
def ofOffset (offset : Nat) (s : List Char) : Place :=
  go offset [] 0 s
where
  /-- The characters of the line so far are in reverse order in `back`. -/
  go (offset : Nat) (back : List Char) (above : Nat) : List Char → Place
    | [] => ⟨above, back.length, back.reverse⟩
    | c :: s =>
      if offset = 0 then ⟨above, back.length, back.reverse ++ (c :: s).takeWhile (· != '\n')⟩
      else if c = '\n' then go (offset - c.utf8Size) [] (above + 1) s
      else go (offset - c.utf8Size) (c :: back) above s

end Place

/-- The number of carets below a part of `size` bytes: one at least, and none that would stand
    beyond the line, whose length counts in bytes. -/
def caretCount (place : Place) (size : Nat) : Nat :=
  max 1 (min size (Text.byteLength place.line - place.left))

/-- The report of a fault. -/
def report (text : List Char) (span : Span) (reason : String) : String :=
  let place := Place.ofOffset span.start text
  let number := toString (place.above + 1)
  let gutter := String.ofList (List.replicate (number.length + 1) ' ')
  let blanks := String.ofList (List.replicate place.left ' ')
  let carets := String.ofList (List.replicate (caretCount place (span.stop - span.start)) '^')
  s!"TOML parse error at line {number}, column {place.left + 1}\n{gutter}|\n" ++
  s!"{number} | {String.ofList place.line}\n{gutter}| {blanks}{carets}\n{reason}\n"

end LoggerTree.Toml
