import LoggerTree.Text.Blank

/-! # Levels and thresholds

    A **level** says how severe a message is; a **threshold** says from which level on messages
    pass, or that none does. Both are read from a word, in any case of letters and with blanks
    around it.
-/

namespace LoggerTree

/-! ### Levels -/

/-- Severity of a message. -/
inductive Level where
  | trace
  | debug
  | info
  | warn
  | error
  deriving DecidableEq

namespace Level

/-- All levels, least severe first. -/
def all : List Level := [trace, debug, info, warn, error]

theorem mem_all (l : Level) : l ∈ all := by
  cases l <;> simp [all]

/-- Place in the order of severity. -/
def severity : Level → Nat
  | trace => 0
  | debug => 1
  | info => 2
  | warn => 3
  | error => 4

/-- Less severe levels come first. -/
instance : LE Level := ⟨fun a b => a.severity ≤ b.severity⟩

instance (a b : Level) : Decidable (a ≤ b) :=
  inferInstanceAs (Decidable (a.severity ≤ b.severity))

/-- The lower-case word for a level. -/
def word : Level → List Char
  | trace => ['t', 'r', 'a', 'c', 'e']
  | debug => ['d', 'e', 'b', 'u', 'g']
  | info => ['i', 'n', 'f', 'o']
  | warn => ['w', 'a', 'r', 'n']
  | error => ['e', 'r', 'r', 'o', 'r']

/-- How a level is shown, as in `WARN`. -/
def display (l : Level) : String :=
  String.ofList (l.word.map Char.toUpper)

/-- The operation that emits a message at a level, as in `warn`. -/
def operation (l : Level) : String :=
  String.ofList l.word

/-- The query whether a level is enabled, as in `is_warn_enabled`. -/
def query (l : Level) : String :=
  s!"is_{l.operation}_enabled"

/-- The capitalised word, as in `Warn`. -/
def label (l : Level) : String :=
  l.operation.capitalize

end Level

/-! ### Thresholds -/

/-- The least level that passes, or none. -/
inductive Threshold where
  | atLeast (level : Level)
  | off
  deriving DecidableEq

namespace Threshold

/-- All thresholds, most permissive first. -/
def all : List Threshold := Level.all.map atLeast ++ [off]

/-- Whether a message at a level passes. -/
def allows : Threshold → Level → Bool
  | atLeast least, l => least ≤ l
  | off, _ => false

/-- Place in the order of strictness. -/
def strictness : Threshold → Nat
  | atLeast l => l.severity
  | off => 5

/-- More permissive thresholds come first. -/
instance : LE Threshold := ⟨fun a b => a.strictness ≤ b.strictness⟩

instance (a b : Threshold) : Decidable (a ≤ b) :=
  inferInstanceAs (Decidable (a.strictness ≤ b.strictness))

/-- The lower-case word for a threshold. -/
def word : Threshold → List Char
  | atLeast l => l.word
  | off => ['o', 'f', 'f']

/-- How a threshold is shown, as in `warn`. -/
def display (t : Threshold) : String :=
  String.ofList t.word

/-- The capitalised word, as in `Warn`. -/
def label (t : Threshold) : String :=
  t.display.capitalize

end Threshold

/-! ### Reading -/

/-- A word that is no level: the text as it was given, and whether `off` would have done. -/
structure LevelError where
  text : List Char
  offAllowed : Bool
  deriving DecidableEq

/-- What is wrong, in words. -/
def LevelError.message (e : LevelError) : String :=
  let expected := if e.offAllowed then "trace, debug, info, warn, error, off"
    else "trace, debug, info, warn, error"
  s!"invalid level '{String.ofList e.text}': expected one of {expected}"

/-- The level for a word in any case of ASCII letters; `warning` stands for `warn`. -/
def Level.ofWord? (s : List Char) : Option Level :=
  let w := s.map Char.toLower
  if w = ['w', 'a', 'r', 'n', 'i', 'n', 'g'] then some .warn
  else Level.all.find? (·.word = w)

/-- The threshold for a word: `off` or a level. -/
def Threshold.ofWord? (s : List Char) : Option Threshold :=
  if s.map Char.toLower = Threshold.off.word then some .off
  else (Level.ofWord? s).map .atLeast

/-- Reads a level, blanks around it left aside. -/
def Level.parse (s : List Char) : Except LevelError Level :=
  match Level.ofWord? (Text.trim s) with
  | some l => .ok l
  | none => .error ⟨s, false⟩

/-- Reads a threshold, blanks around it left aside. -/
def Threshold.parse (s : List Char) : Except LevelError Threshold :=
  match Threshold.ofWord? (Text.trim s) with
  | some t => .ok t
  | none => .error ⟨s, true⟩

theorem Level.ofWord?_word (l : Level) : Level.ofWord? l.word = some l := by
  cases l <;> decide

theorem Threshold.ofWord?_word (t : Threshold) : Threshold.ofWord? t.word = some t := by
  rcases t with l | _
  · cases l <;> decide
  · decide

end LoggerTree
