import LoggerTree.Config
import LoggerTree.Config.Fault

/-! # From documents to configurations

    Each section is a table of fields or, with the fields in their order, an array. The entries of
    a table are taken in code-point order of their keys, and the first fault is reported. Sections
    leave keys aside that they do not know; the document itself has none but its three sections.
-/

namespace LoggerTree.Config

open Toml (Node Span Value Entries)

/-- What a document part gives, or what is wrong with it. -/
abbrev Decoded := Except Fault

/-! ### Values -/

/-- Any text. -/
def decodeString : Node → Decoded (List Char)
  | (_, .string s) => .ok s
  | (span, v) => .error ⟨.wrongKind v "a string", span⟩

/-- A truth value. -/
def decodeBool : Node → Decoded Bool
  | (_, .boolean b) => .ok b
  | (span, v) => .error ⟨.wrongKind v "a boolean", span⟩

/-- A threshold. A word that is none puts the part `blamed` at fault. -/
def decodeThreshold (blamed : Span) (node : Node) : Decoded Threshold := do
  let word ← decodeString node
  (Threshold.parse word).mapError fun e => ⟨.level e, blamed⟩

/-- The word for one of several variants. -/
def decodeWord {α : Type} (ofWord? : String → Option α) (words : List String) (span : Span)
    (word : List Char) : Decoded α :=
  match ofWord? (String.ofList word) with
  | some a => .ok a
  | none => .error ⟨.unknownVariant word words, span⟩

/-- That nothing comes with a variant: an empty table or an empty array. -/
def decodeNothing : Node → Decoded Unit
  | (_, .table _ []) | (_, .array _ []) => .ok ()
  | (span, .table _ _) => .error ⟨.choiceNotEmpty "table", span⟩
  | (span, .array _ _) => .error ⟨.choiceNotEmpty "array", span⟩
  | (span, v) => .error ⟨.choiceWithValue (kindWord v), span⟩

/-- One of several variants: its word, or a table whose one key is the word. -/
def decodeChoice {α : Type} (ofWord? : String → Option α) (words : List String) :
    Node → Decoded α
  | (span, .string word) => decodeWord ofWord? words span word
  | (_, .table _ [(key, node)]) => do
    let a ← decodeWord ofWord? words key.span key.chars
    decodeNothing node
    return a
  | (span, .table _ entries) => .error ⟨.choiceCount entries.isEmpty, span⟩
  | (span, _) => .error ⟨.noChoice, span⟩

/-! ### Sections -/

/-- A field of a section: its key, and how its value is put into the section. The part that is
    blamed for a word that is no threshold is passed along. -/
structure Field (σ : Type) where
  key : String
  put : Span → Node → σ → Decoded σ

/-- The field with a key. -/
def fieldFor? {σ : Type} (fields : List (Field σ)) (key : List Char) : Option (Field σ) :=
  fields.find? (·.key.toList = key)

/-- Puts the values of a table into their fields. A key without a field is left aside, or is a
    fault where the table is `closed`. -/
def putEntries {σ : Type} (closed : Bool) (fields : List (Field σ)) : Entries → σ → Decoded σ
  | [], s => .ok s
  | (key, node) :: entries, s =>
    match fieldFor? fields key.chars with
    | some field => (field.put node.1 node s).bind (putEntries closed fields entries)
    | none =>
      if closed then .error ⟨.unknownField key.chars (fields.map (·.key)), key.span⟩
      else putEntries closed fields entries s

/-- Puts the items of an array into the fields in their order. Items beyond the last field are
    left aside. -/
def putItems {σ : Type} (whole : Span) : List (Field σ) → List Node → σ → Decoded σ
  | field :: fields, node :: items, s =>
    (field.put whole node s).bind (putItems whole fields items)
  | _, _, s => .ok s

/-- A section, as a table or as an array. A date or time has no known key and changes nothing. -/
def decodeSection {σ : Type} (noun : String) (fields : List (Field σ)) (start : σ) :
    Node → Decoded σ
  | (_, .table _ entries) => putEntries false fields entries start
  | (span, .array _ items) => putItems span fields items start
  | (_, .datetime _) => .ok start
  | (span, v) => .error ⟨.wrongKind v noun, span⟩

/-- The words for the naming strategies. -/
def strategyWords : List String := ["by-type", "type", "by-symbol", "symbol"]

/-- The fields of the section on naming. -/
def namingFields : List (Field NamingConfig) :=
  [⟨"strategy", fun _ node s => do
      return { s with strategy := ← decodeChoice Strategy.ofWord? strategyWords node }⟩]

/-- The thresholds of logger names. A date or time counts as a word, and it is no threshold. -/
def decodeLoggers : Node → Decoded (List (List Char × Threshold))
  | (_, .table _ entries) => entries.mapM fun (key, node) => do
    return (key.chars, ← decodeThreshold node.1 node)
  | (span, .datetime word) => .error ⟨.level ⟨word, true⟩, span⟩
  | (span, v) => .error ⟨.wrongKind v "a map", span⟩

/-- The fields of the section on thresholds. -/
def filterFields : List (Field FilterConfig) :=
  [⟨"default", fun blamed node s => do
      return { s with fallback := ← decodeThreshold blamed node }⟩,
   ⟨"loggers", fun _ node s => do return { s with loggers := ← decodeLoggers node }⟩]

/-- The words for the output formats. -/
def formatWords : List String := ["text", "json"]

/-- The fields of the section on the subscriber. -/
def subscriberFields : List (Field SubscriberConfig) :=
  [⟨"level", fun _ node s => do return { s with level := ← decodeString node }⟩,
   ⟨"format", fun _ node s => do
      return { s with format := ← decodeChoice OutputFormat.ofWord? formatWords node }⟩,
   ⟨"output", fun _ node s => do return { s with output := ← decodeString node }⟩,
   ⟨"color", fun _ node s => do return { s with color := ← decodeBool node }⟩,
   ⟨"timestamps", fun _ node s => do return { s with timestamps := ← decodeBool node }⟩,
   ⟨"target", fun _ node s => do return { s with target := ← decodeBool node }⟩]

/-! ### Documents -/

/-- The sections of a document. -/
def sectionFields : List (Field Config) :=
  [⟨"naming", fun _ node c => do
      return { c with naming := ← decodeSection "struct NamingConfig" namingFields {} node }⟩,
   ⟨"filter", fun _ node c => do
      return { c with filter := ← decodeSection "struct FilterConfig" filterFields {} node }⟩,
   ⟨"subscriber", fun _ node c => do
      return { c with
        subscriber := ← decodeSection "struct SubscriberConfig" subscriberFields {} node }⟩]

/-- The configuration that a document gives. -/
def decode (entries : Entries) : Decoded Config :=
  putEntries true sectionFields entries {}

end LoggerTree.Config
