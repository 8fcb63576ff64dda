import LoggerTree.Directives
import LoggerTree.Event

/-! # Backends

    A **backend** hands out handles by name, one handle for each name. There are two: one keeps a
    **journal** of all calls that its handles get, the other sends what its handles emit to the
    subscriber.

    A handle of the first asks the directives that its backend has at the time. A handle of the
    second keeps the threshold that its name had when the handle was made.
-/

namespace LoggerTree

/-! ### Handles -/

/-- What a backend hands out for a name. -/
structure Handle where
  /-- Which of the handles of its backend this is. -/
  slot : Nat
  name : Name
  /-- The threshold that the handle keeps. A handle without one asks its backend each time. -/
  threshold? : Option Threshold
  deriving DecidableEq

/-- The handles that a backend has made, oldest first. -/
abbrev Handles := List Handle

namespace Handles

/-- The handle for a name, if it has been made. -/
def find? (handles : Handles) (name : Name) : Option Handle :=
  List.find? (·.name = name) handles

/-- The next handle to make for a name. -/
def next (handles : Handles) (name : Name) (threshold? : Option Threshold) : Handle :=
  ⟨handles.length, name, threshold?⟩

theorem name_of_find? {handles : Handles} {name : Name} {h : Handle}
    (found : handles.find? name = some h) : h.name = name := by
  simpa using List.find?_some found

end Handles

/-! ### The journal -/

/-- A message that reached a backend. -/
structure Record where
  logger : Name
  level : Level
  message : String
  /-- The text of the attached error. -/
  error : Option String
  deriving DecidableEq

/-- One call that a handle got. -/
inductive Entry where
  /-- The query whether a level is enabled, and its answer. -/
  | queried (logger : Name) (level : Level) (enabled : Bool)
  | emitted (record : Record)
  deriving DecidableEq

namespace Entry

/-- The message of an entry, if it is one. -/
def record? : Entry → Option Record
  | queried .. => none
  | emitted r => some r

/-- Whether an entry is a query. -/
def isQuery : Entry → Bool
  | queried .. => true
  | emitted _ => false

end Entry

/-! ### The two backends -/

/-- Where the handles of a backend fail, and the text they fail with. -/
inductive Defect where
  /-- Before a query is recorded. -/
  | onQuery (text : String)
  /-- After a message is recorded. -/
  | onEmit (text : String)
  deriving DecidableEq

/-- A backend that keeps a journal. -/
structure Capture where
  directives : Directives := {}
  handles : Handles := []
  /-- The calls since the journal was last cleared, oldest first. -/
  journal : List Entry := []
  defect : Option Defect := none
  deriving DecidableEq

/-- A backend that sends messages to the subscriber. -/
structure Relay where
  directives : Directives := {}
  handles : Handles := []
  deriving DecidableEq

/-- A backend. -/
inductive Backend where
  | capture (c : Capture)
  | relay (r : Relay)
  deriving DecidableEq

namespace Capture

/-- The messages in the journal. -/
def records (c : Capture) : List Record :=
  c.journal.filterMap Entry.record?

/-- The number of queries in the journal. -/
def queryCount (c : Capture) : Nat :=
  c.journal.countP Entry.isQuery

end Capture

namespace Backend

/-- A backend that lets everything pass to the subscriber. -/
def plain : Backend :=
  .relay {}

/-- The thresholds of a backend. -/
def directives : Backend → Directives
  | capture c => c.directives
  | relay r => r.directives

/-- The handles of a backend. -/
def handles : Backend → Handles
  | capture c => c.handles
  | relay r => r.handles

/-- The threshold that a new handle keeps. -/
def thresholdFor? : Backend → Name → Option Threshold
  | capture _, _ => none
  | relay r, name => some (r.directives.threshold name)

/-- The handle that would be made for a name. -/
def nextHandle (b : Backend) (name : Name) : Handle :=
  b.handles.next name (b.thresholdFor? name)

/-- Adds a handle. -/
def addHandle (h : Handle) : Backend → Backend
  | capture c => capture { c with handles := c.handles ++ [h] }
  | relay r => relay { r with handles := r.handles ++ [h] }

/-- The calls a backend has kept; one that sends its messages away keeps none. -/
def journal : Backend → List Entry
  | capture c => c.journal
  | relay _ => []

/-- Adds an entry to the journal, if there is one. -/
def note (e : Entry) : Backend → Backend
  | capture c => capture { c with journal := c.journal ++ [e] }
  | relay r => relay r

/-- Empties the journal. -/
def clear : Backend → Backend
  | capture c => capture { c with journal := [] }
  | relay r => relay r

/-- Replaces the thresholds of a backend that keeps a journal; the other has them for good. -/
def setDirectives (d : Directives) : Backend → Backend
  | capture c => capture { c with directives := d }
  | relay r => relay r

/-- The text that a query fails with. -/
def queryFailure? : Backend → Option String
  | capture { defect := some (.onQuery text), .. } => some text
  | _ => none

/-- The text that emitting a message fails with. -/
def emitFailure? : Backend → Option String
  | capture { defect := some (.onEmit text), .. } => some text
  | _ => none

/-! ### Small facts -/

@[simp] theorem handles_addHandle (h : Handle) (b : Backend) :
    (b.addHandle h).handles = b.handles ++ [h] := by
  cases b <;> rfl

@[simp] theorem handles_note (e : Entry) (b : Backend) : (b.note e).handles = b.handles := by
  cases b <;> rfl

@[simp] theorem handles_clear (b : Backend) : b.clear.handles = b.handles := by
  cases b <;> rfl

@[simp] theorem handles_setDirectives (d : Directives) (b : Backend) :
    (b.setDirectives d).handles = b.handles := by
  cases b <;> rfl

@[simp] theorem directives_addHandle (h : Handle) (b : Backend) :
    (b.addHandle h).directives = b.directives := by
  cases b <;> rfl

@[simp] theorem directives_note (e : Entry) (b : Backend) :
    (b.note e).directives = b.directives := by
  cases b <;> rfl

@[simp] theorem directives_clear (b : Backend) : b.clear.directives = b.directives := by
  cases b <;> rfl

@[simp] theorem journal_addHandle (h : Handle) (b : Backend) :
    (b.addHandle h).journal = b.journal := by
  cases b <;> rfl

@[simp] theorem journal_clear (b : Backend) : b.clear.journal = [] := by
  cases b <;> rfl

@[simp] theorem journal_setDirectives (d : Directives) (b : Backend) :
    (b.setDirectives d).journal = b.journal := by
  cases b <;> rfl

end Backend

end LoggerTree
