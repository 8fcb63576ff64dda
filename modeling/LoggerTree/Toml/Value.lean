/-! # TOML values

    What a TOML document holds: values, each with the place in the text where it was written, and
    tables with one entry a key. A table also remembers how it was written, since that decides
    whether later parts of the document may add to it.
-/

namespace LoggerTree.Toml

/-- A part of a text, in bytes of UTF-8 from its start; the end is not included. -/
structure Span where
  start : Nat
  stop : Nat
  deriving DecidableEq

/-- A part of a dotted key. -/
structure Key where
  chars : List Char
  span : Span
  deriving DecidableEq

/-- A floating-point number as written. -/
inductive Float where
  | nan
  | infinite (negative : Bool)
  /-- The number `digits * 10 ^ power`. -/
  | decimal (negative : Bool) (digits : Nat) (power : Int)
  deriving DecidableEq

/-- How a table came about. -/
inductive Origin where
  /-- Written between braces. -/
  | inline
  /-- Named by a header of its own. -/
  | header
  /-- Passed through by the header of another table. -/
  | implied
  /-- Passed through by a dotted key. -/
  | dotted
  deriving DecidableEq

/-- A value of a document. -/
inductive Value where
  | string (chars : List Char)
  | integer (n : Int)
  /-- An integer by its looks, whose digits give no number. Only who asks for it finds out. -/
  | lookalike
  | float (x : Float)
  | boolean (b : Bool)
  /-- A date, a time or both, in its normal form. -/
  | datetime (chars : List Char)
  /-- Items between brackets, or the tables of headers with doubled brackets. -/
  | array (ofTables : Bool) (items : List (Span × Value))
  | table (origin : Origin) (entries : List (Key × Span × Value))

/-- A value and where it was written. -/
abbrev Node := Span × Value

/-- The entries of a table, in code-point order of their keys. -/
abbrev Entries := List (Key × Node)

/-! ### Entries -/

namespace Entries

/-- The entry with a key. -/
def find? (entries : Entries) (key : List Char) : Option (Key × Node) :=
  List.find? (·.1.chars = key) entries

/-- Puts an entry at its place, instead of one with the same key. -/
def insert (key : Key) (node : Node) : Entries → Entries
  | [] => [(key, node)]
  | e :: entries =>
    if e.1.chars = key.chars then (key, node) :: entries
    else if e.1.chars < key.chars then e :: insert key node entries
    else (key, node) :: e :: entries

/-- Changes the table that a path leads to. A table on the way that is missing is made; an array
    of tables is entered at its last table. Inline tables are closed, and a dotted key may not
    pass through a table that has a header. -/
def alter (dotted : Bool) (change : Origin → Entries → Option Entries) :
    List Key → Origin → Entries → Option Entries
  | [], origin, entries => change origin entries
  | key :: path, _, entries =>
    match find? entries key.chars with
    | none =>
      let origin : Origin := if dotted then .dotted else .implied
      (alter dotted change path origin []).map fun inner =>
        insert key (key.span, .table origin inner) entries
    | some (old, span, .table origin inner) =>
      if origin = .inline ∨ (dotted ∧ origin = .header) then none
      else (alter dotted change path origin inner).map fun inner =>
        insert old (span, .table origin inner) entries
    | some (old, span, .array true items) =>
      match items.getLast? with
      | some (itemSpan, .table origin inner) =>
        (alter dotted change path origin inner).map fun inner =>
          insert old (span, .array true (items.dropLast ++ [(itemSpan, .table origin inner)]))
            entries
      | _ => none
    | some _ => none

/-- Adds the value of a dotted key. The last part must be new, and dotted keys may add to a table
    only if dotted keys made it. -/
def define (path : List Key) (key : Key) (node : Node) (origin : Origin) (entries : Entries) :
    Option Entries :=
  alter true (fun origin inner =>
    if (origin == .dotted) == path.isEmpty || (find? inner key.chars).isSome then none
    else some (insert key node inner)) path origin entries

end Entries

end LoggerTree.Toml
