import LoggerTree.Toml.Scalar
import LoggerTree.Toml.Token

/-! # TOML documents

    A document is a list of **statements**: headers and keys with values. Read in order they build
    one table. A text is no document when a statement is not well formed, or when it defines
    anew what an earlier one has defined.
-/

namespace LoggerTree.Toml

/-- A reader takes tokens from the front and gives the others back. -/
abbrev Reader (α : Type) := List Token → Option (α × List Token)

namespace Document

/-! ### Keys -/

/-- The characters that a key may have without quotes. -/
def isBareKeyChar (c : Char) : Bool :=
  c.isAlphanum || c == '_' || c == '-'

/-- One part of a key: a bare run, or a text between quotes on one line. -/
def keyPart? (t : Token) : Option Key :=
  match t.kind with
  | .bare => if t.lexeme.all isBareKeyChar then some ⟨t.lexeme, t.span⟩ else none
  | .quoted false chars => some ⟨chars, t.span⟩
  | _ => none

/-- The parts of a key, between which dots stand. -/
def keyParts : Reader (List Key)
  | [] => none
  | t :: tokens =>
    match keyPart? t, tokens.dropWhile Token.isSpace with
    | none, _ => none
    | some part, ⟨.dot, _, _⟩ :: rest =>
      let next := rest.dropWhile Token.isSpace
      if _h : next.length < (t :: tokens).length then
        (keyParts next).map fun (parts, rest) => (part :: parts, rest)
      else none
    | some part, _ => some ([part], tokens)
termination_by tokens => tokens.length
decreasing_by exact _h

/-- The number of parts that a key may have. -/
def partLimit : Nat := 80

/-- A key: the parts it passes through, and its last part. -/
def key : Reader (List Key × Key) := fun tokens => do
  let (parts, rest) ← keyParts tokens
  if partLimit < parts.length then none
  else return ((parts.dropLast, ← parts.getLast?), rest)

/-! ### Values -/

/-- Items with commas between them up to a closing mark. A comma may follow the last one. -/
def itemsUntil {α : Type} (close : TokenKind) (item : Reader α) :
    Reader (List α × Token) := fun tokens =>
  match tokens.dropWhile Token.isTrivia with
  | [] => none
  | t :: rest =>
    if t.kind = close then some (([], t), rest)
    else
      match item (t :: rest) with
      | none => none
      | some (a, rest) =>
        match rest.dropWhile Token.isTrivia with
        | [] => none
        | t :: rest =>
          if t.kind = close then some (([a], t), rest)
          else if t.kind = .comma ∧ rest.length < tokens.length then
            (itemsUntil close item rest).map fun ((as, t), rest) => ((a :: as, t), rest)
          else none
termination_by tokens => tokens.length

/-- A key, an equals sign, and a value. What may stand around the sign is told by `isGap`. -/
def binding (isGap : Token → Bool) (value : Reader Node) :
    Reader ((List Key × Key) × Node) := fun tokens => do
  let (key, rest) ← key tokens
  match rest.dropWhile isGap with
  | ⟨.equals, _, _⟩ :: rest =>
    let (node, rest) ← value (rest.dropWhile isGap)
    return ((key, node), rest)
  | _ => none

/-- Adds bindings to a table. -/
def defineAll (origin : Origin) (entries : Entries) (bindings : List ((List Key × Key) × Node)) :
    Option Entries :=
  bindings.foldlM (fun entries ((path, key), node) =>
    Entries.define path key node origin entries) entries

/-- A number, a word or a date. A blank may stand between a date and a time. -/
def scalar : Reader Node := fun tokens => do
  let isPart (t : Token) : Bool := t.kind == .bare || t.kind == .dot
  let (parts, rest) : List Token × List Token := tokens.span isPart
  let (parts, rest) : List Token × List Token := match rest with
    | space :: afterBlank =>
      match afterBlank with
      | next :: _ =>
        if space.lexeme = [' '] && (Scalar.date? (parts.flatMap (·.lexeme))).isSome &&
            next.kind == .bare && next.lexeme.head?.any Char.isDigit then
          let (more, rest) : List Token × List Token := afterBlank.span isPart
          (parts ++ space :: more, rest)
        else (parts, rest)
      | [] => (parts, rest)
    | [] => (parts, rest)
  let first ← parts.head?
  let last ← parts.getLast?
  return ((⟨first.span.start, last.span.stop⟩, ← Scalar.value? (parts.flatMap (·.lexeme))), rest)

/-- A value in which at most `depth` brackets and braces are open at a time. -/
def value : Nat → Reader Node
  | _, [] => none
  | depth, t :: rest =>
    match t.kind, depth with
    | .quoted _ chars, _ => some ((t.span, .string chars), rest)
    | .openBracket, depth + 1 => do
      let ((items, last), rest) ← itemsUntil .closeBracket (value depth) rest
      return ((⟨t.span.start, last.span.stop⟩, .array false items), rest)
    | .openBrace, depth + 1 => do
      let item := binding Token.isTrivia (value depth)
      let ((bindings, last), rest) ← itemsUntil .closeBrace item rest
      let entries ← defineAll .inline [] bindings
      return ((⟨t.span.start, last.span.stop⟩, .table .inline entries), rest)
    | _, _ => scalar (t :: rest)

/-- The number of brackets and braces that may be open at a time. -/
def depthLimit : Nat := 80

/-! ### Statements -/

/-- A statement of a document. -/
inductive Statement where
  /-- A header; doubled brackets add a table to an array. -/
  | header (doubled : Bool) (path : List Key) (key : Key) (span : Span)
  | binding (path : List Key) (key : Key) (node : Node)

/-- A header from its first bracket to its last. -/
def header : Reader Statement
  | first@⟨.openBracket, _, _⟩ :: ⟨.openBracket, _, _⟩ :: tokens => do
    let ((path, key), rest) ← key (tokens.dropWhile Token.isSpace)
    match rest.dropWhile Token.isSpace with
    | ⟨.closeBracket, _, _⟩ :: last@⟨.closeBracket, _, _⟩ :: rest =>
      return (.header true path key ⟨first.span.start, last.span.stop⟩, rest)
    | _ => none
  | first@⟨.openBracket, _, _⟩ :: tokens => do
    let ((path, key), rest) ← key (tokens.dropWhile Token.isSpace)
    match rest.dropWhile Token.isSpace with
    | last@⟨.closeBracket, _, _⟩ :: rest =>
      return (.header false path key ⟨first.span.start, last.span.stop⟩, rest)
    | _ => none
  | _ => none

/-- A statement, which starts with a bracket if it is a header. -/
def statement : Reader Statement := fun tokens =>
  match tokens with
  | ⟨.openBracket, _, _⟩ :: _ => header tokens
  | _ => (binding Token.isSpace (value depthLimit) tokens).map
    fun (((path, key), node), rest) => (.binding path key node, rest)

/-- What follows a statement on its line: blanks and a comment, and then a line end or nothing. -/
def endOfLine (tokens : List Token) : Option (List Token) :=
  match tokens.dropWhile fun t => t.kind == .blank || t.kind == .comment with
  | [] => some []
  | t :: rest => if t.kind = .lineEnd then some rest else none

/-- The statements of a document, one a line. -/
def statements (tokens : List Token) : Option (List Statement) :=
  match tokens.dropWhile Token.isTrivia with
  | [] => some []
  | t :: rest => do
    let (s, after) ← statement (t :: rest)
    let next ← endOfLine after
    if next.length < tokens.length then
      return s :: (← statements next)
    else none
termination_by tokens.length

/-! ### Building -/

/-- A header with the bindings below it. -/
structure Section where
  doubled : Bool
  path : List Key
  key : Key
  span : Span
  bindings : List ((List Key × Key) × Node)

/-- The bindings in front of the first header, and a section for each header. -/
def sections : List Statement → List ((List Key × Key) × Node) × List Section
  | [] => ([], [])
  | .binding path key node :: rest =>
    let (bindings, parts) := sections rest
    (((path, key), node) :: bindings, parts)
  | .header doubled path key span :: rest =>
    let (bindings, parts) := sections rest
    ([], ⟨doubled, path, key, span, bindings⟩ :: parts)

/-- Adds the table of a section to a document. A table may have been passed through before, but
    may not have been defined; doubled brackets add to an array that such brackets began. -/
def addSection (root : Entries) (s : Section) : Option Entries :=
  Entries.alter false (fun _ entries =>
    match s.doubled, Entries.find? entries s.key.chars with
    | false, none => do
      let inner ← defineAll .header [] s.bindings
      return Entries.insert s.key (s.span, .table .header inner) entries
    | false, some (_, _, .table .implied before) => do
      let inner ← defineAll .header before s.bindings
      return Entries.insert s.key (s.span, .table .header inner) entries
    | true, none => do
      let inner ← defineAll .header [] s.bindings
      return Entries.insert s.key (s.span, .array true [(s.span, .table .header inner)]) entries
    | true, some (key, span, .array true items) => do
      let inner ← defineAll .header [] s.bindings
      return Entries.insert key (span, .array true (items ++ [(s.span, .table .header inner)]))
        entries
    | _, some _ => none) s.path .header root

/-- The table of a document. -/
def build (statements : List Statement) : Option Entries := do
  let (bindings, parts) := sections statements
  parts.foldlM addSection (← defineAll .header [] bindings)

/-! ### Reading -/

/-- Reads a text, in front of which a byte order mark may stand. -/
def parse? (s : List Char) : Option Entries :=
  let tokens? := match s with
    | '\ufeff' :: s => Token.ofChars? 3 s
    | s => Token.ofChars? 0 s
  tokens?.bind fun tokens => (statements tokens).bind build

end Document

end LoggerTree.Toml
