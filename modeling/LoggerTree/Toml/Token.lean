import LoggerTree.Text.Hex
import LoggerTree.Text.Scan
import LoggerTree.Text.Split
import LoggerTree.Toml.Value

/-! # TOML tokens

    A document is cut into marks, line ends, runs of blanks, comments, quoted texts and **bare
    runs**, which hold everything else: plain keys, numbers, dates and words. Nothing is dropped,
    so that every token knows its place.
-/

namespace LoggerTree.Toml

/-- What a token is. -/
inductive TokenKind where
  | lineEnd
  | blank
  | comment
  | equals
  | comma
  | dot
  | openBracket
  | closeBracket
  | openBrace
  | closeBrace
  /-- A text between quotes, its escapes undone. -/
  | quoted (multiline : Bool) (chars : List Char)
  | bare
  deriving DecidableEq

/-- A token, the characters it was written with, and their place. -/
structure Token where
  kind : TokenKind
  lexeme : List Char
  span : Span

namespace Token

/-! ### Characters -/

/-- Whether a character may stand in a comment or in a text: no control character but the tab. -/
def isPlain (c : Char) : Bool :=
  c == '\t' || (0x20 ≤ c.toNat && c.toNat != 0x7F)

/-- A blank inside a line. -/
def isInlineBlank (c : Char) : Bool :=
  c == ' ' || c == '\t'

/-- The characters that end a bare run. A quote inside it is one of its characters. -/
def marks : List Char :=
  [' ', '\t', '\r', '\n', '#', '=', ',', '.', '[', ']', '\x7b', '\x7d']

/-- What follows a line end, if the text starts with one. -/
def afterLineEnd? : List Char → Option (List Char)
  | '\n' :: s => some s
  | '\r' :: '\n' :: s => some s
  | _ => none

/-! ### Escapes -/

/-- The character whose code point the next `count` hexadecimal digits give. -/
def codePoint? (count : Nat) (s : List Char) : Option (List Char × List Char) :=
  match Text.takeHex? count s with
  | some (n, rest) => if n.isValidChar then some ([Char.ofNat n], rest) else none
  | none => none

/-- The character that follows a backslash, and the rest. -/
def escape? : List Char → Option (List Char × List Char)
  | 'b' :: s => some (['\x08'], s)
  | 't' :: s => some (['\t'], s)
  | 'n' :: s => some (['\n'], s)
  | 'f' :: s => some (['\x0c'], s)
  | 'r' :: s => some (['\r'], s)
  | 'e' :: s => some (['\x1b'], s)
  | '"' :: s => some (['"'], s)
  | '\\' :: s => some (['\\'], s)
  | 'x' :: s => codePoint? 2 s
  | 'u' :: s => codePoint? 4 s
  | 'U' :: s => codePoint? 8 s
  | _ => none

/-- Passes over blanks and line ends. -/
def dropBlankLines (s : List Char) : List Char :=
  match afterLineEnd? (s.dropWhile isInlineBlank) with
  | some rest => if rest.length < s.length then dropBlankLines rest else rest
  | none => s.dropWhile isInlineBlank
termination_by s.length

/-- What follows a backslash at the end of a line: all blanks and line ends after it are passed
    over. -/
def continued? (s : List Char) : Option (List Char × List Char) :=
  match afterLineEnd? (s.dropWhile isInlineBlank) with
  | some rest => some ([], dropBlankLines rest)
  | none => none

/-! ### Quoted texts -/

/-- The end of a text over several lines: three quotes, before which up to two more belong to the
    text. -/
def closeLines (quote : Char) (s : List Char) : Option (List Char × List Char) :=
  let run := (s.takeWhile (· == quote)).length
  if run < 3 then none
  else
    let extra := min (run - 3) 2
    some (List.replicate extra quote, s.drop (extra + 3))

/-- One plain character. -/
def plainPiece : List Char → Option (List Char × List Char)
  | c :: s => if isPlain c then some ([c], s) else none
  | [] => none

/-- One plain character or one escape. -/
def escapedPiece : List Char → Option (List Char × List Char)
  | '\\' :: s => escape? s
  | s => plainPiece s

/-- A piece of a text over several lines: a line end as it is written, or what `piece` reads. -/
def linePiece (piece : List Char → Option (List Char × List Char)) (s : List Char) :
    Option (List Char × List Char) :=
  match afterLineEnd? s with
  | some rest => some (s.take (s.length - rest.length), rest)
  | none => piece s

/-- As `escapedPiece`, or a backslash at the end of a line. -/
def continuedPiece : List Char → Option (List Char × List Char)
  | '\\' :: s => (continued? s).or (escape? s)
  | s => escapedPiece s

/-- A quoted text whose opening quotes are behind us. The line end right after three quotes does
    not count. -/
def quotedBody (quote : Char) (multiline : Bool) (s : List Char) :
    Option (List Char × List Char) :=
  let piece := if quote = '"' then escapedPiece else plainPiece
  if multiline then
    let piece := if quote = '"' then continuedPiece else plainPiece
    Text.scan (closeLines quote) (linePiece piece) ((afterLineEnd? s).getD s)
  else Text.scan (Text.closeQuote quote) piece s

/-! ### Tokens -/

/-- The kind of the first token and what follows it. -/
def first? : List Char → Option (TokenKind × List Char)
  | [] => none
  | '\n' :: s => some (.lineEnd, s)
  | '\r' :: '\n' :: s => some (.lineEnd, s)
  | '=' :: s => some (.equals, s)
  | ',' :: s => some (.comma, s)
  | '.' :: s => some (.dot, s)
  | '[' :: s => some (.openBracket, s)
  | ']' :: s => some (.closeBracket, s)
  | '\x7b' :: s => some (.openBrace, s)
  | '\x7d' :: s => some (.closeBrace, s)
  | '#' :: s =>
    let (line, rest) := s.span fun c => c != '\n' && c != '\r'
    if line.all isPlain then some (.comment, rest) else none
  | c :: s =>
    if isInlineBlank c then some (.blank, s.dropWhile isInlineBlank)
    else if c = '"' ∨ c = '\'' then
      let (multiline, body) := match Text.after? [c, c] s with
        | some body => (true, body)
        | none => (false, s)
      (quotedBody c multiline body).map fun (chars, rest) => (.quoted multiline chars, rest)
    else if c = '\r' then none
    else some (.bare, s.dropWhile (!marks.contains ·))

/-- Cuts a text into tokens, the first of which starts at byte `start`. -/
def ofChars? (start : Nat) (s : List Char) : Option (List Token) :=
  if s.isEmpty then some []
  else
    match first? s with
    | some (kind, rest) =>
      if rest.length < s.length then
        let lexeme := s.take (s.length - rest.length)
        let stop := start + Text.byteLength lexeme
        (ofChars? stop rest).map (⟨kind, lexeme, ⟨start, stop⟩⟩ :: ·)
      else none
    | none => none
termination_by s.length

/-- Whether a token may stand before a value without meaning: blanks inside a line. -/
def isSpace (t : Token) : Bool :=
  t.kind == .blank

/-- Whether a token has no meaning between brackets: blanks, comments and line ends. -/
def isTrivia (t : Token) : Bool :=
  t.kind == .blank || t.kind == .comment || t.kind == .lineEnd

end Token

end LoggerTree.Toml
