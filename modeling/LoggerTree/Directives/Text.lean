import LoggerTree.Directives

/-! # Directives in writing

    Directives are written as pieces between commas, as in `warn,app.db=debug`. A piece is a
    threshold, which goes to the root, or a name, an equals sign and a threshold. Pieces are
    taken from left to right, blank ones left out, and the first piece at fault is reported.
-/

namespace LoggerTree

/-- What is wrong with a piece; the piece itself is kept trimmed. -/
inductive DirectiveError where
  /-- Nothing but the root stands before the equals sign. -/
  | missingName (piece : List Char)
  /-- What should be a threshold is none. -/
  | level (piece : List Char) (cause : LevelError)
  deriving DecidableEq

namespace DirectiveError

/-- What is wrong, in words. -/
def message : DirectiveError → String
  | missingName piece => s!"missing logger name in directive '{String.ofList piece}'"
  | level piece cause => s!"invalid level in directive '{String.ofList piece}': {cause.message}"

/-- The error behind this one. -/
def cause? : DirectiveError → Option LevelError
  | missingName _ => none
  | level _ cause => some cause

end DirectiveError

namespace Directives

/-! ### Reading -/

/-- The assignment that a piece without blanks at its ends asks for. A missing name is found
    before a wrong threshold. -/
def readPiece (piece : List Char) : Except DirectiveError Assignment :=
  let threshold (s : List Char) : Except DirectiveError Threshold :=
    (Threshold.parse s).mapError (.level piece)
  match Text.cut? '=' piece with
  | none => (threshold piece).map fun t => (.root, t)
  | some (left, right) =>
    let name := Name.ofChars left
    if name.isRoot then .error (.missingName piece)
    else (threshold right).map fun t => (name, t)

/-- The pieces of a text that are not blank, trimmed. -/
def pieces (s : List Char) : List (List Char) :=
  ((Text.split ',' s).map Text.trim).filter (· ≠ [])

/-- The assignments that pieces ask for, or what is wrong with the first piece at fault. -/
def readPieces : List (List Char) → Except DirectiveError (List Assignment)
  | [] => .ok []
  | piece :: rest =>
    match readPiece piece with
    | .error e => .error e
    | .ok a => (readPieces rest).map (a :: ·)

/-- Reads directives; without a piece for the root everything passes. -/
def parse (s : List Char) : Except DirectiveError Directives :=
  (readPieces (pieces s)).map ({} : Directives).assignAll

/-! ### Writing -/

/-- A rule as in `app.db=debug`. -/
def displayRule (r : Rule) : List Char :=
  r.name.chars ++ '=' :: r.threshold.word

/-- The fallback and then the rules in their order. -/
def displayChars (d : Directives) : List Char :=
  [','].intercalate (d.fallback.word :: d.rules.map displayRule)

/-- Directives as one string. -/
def display (d : Directives) : String :=
  String.ofList d.displayChars

/-- Whether reading the written form gives the same directives. -/
def reparses (d : Directives) : Bool :=
  match parse d.displayChars with
  | .ok e => e = d
  | .error _ => false

end Directives

end LoggerTree
