import LoggerTree.Text.Blank
import LoggerTree.Text.Split

/-! # Logger names

    A **logger name** is a dotted path such as `app.db.Pool`; the empty one is the root. Names
    form a tree: cutting a name at its last dot gives its parent, and a name lies within another
    when that one is among its ancestors.
-/

namespace LoggerTree

/-- A dotted logger name. -/
structure Name where
  chars : List Char
  deriving DecidableEq

namespace Name

/-! ### Making names -/

/-- The name above all others. -/
def root : Name := ⟨[]⟩

/-- The name a text stands for: blanks at the ends go first, then every `::` becomes a dot, and
    the dots at the ends go last. Blanks that only this last step uncovers stay. -/
def ofChars (s : List Char) : Name :=
  ⟨Text.strip (· == '.') (Text.dotted (Text.trim s))⟩

/-- The name a string stands for. -/
def ofString (s : String) : Name :=
  ofChars s.toList

/-- The text of a name. -/
def toString (n : Name) : String :=
  String.ofList n.chars

/-- Whether this is the root. -/
def isRoot (n : Name) : Bool :=
  n.chars.isEmpty

@[simp] theorem isRoot_iff {n : Name} : n.isRoot = true ↔ n = root := by
  cases n
  simp [isRoot, root]

/-! ### The tree -/

/-- The parts between the dots, outermost first; empty parts do not count. -/
def segments (n : Name) : List (List Char) :=
  (Text.split '.' n.chars).filter (· ≠ [])

/-- The name up to the last dot, or the root where there is no dot. The root has no parent. -/
def parent? (n : Name) : Option Name :=
  if n.isRoot then none
  else some ⟨(Text.beforeLast? '.' n.chars).getD []⟩

theorem length_parent?_lt {n p : Name} (h : n.parent? = some p) :
    p.chars.length < n.chars.length := by
  simp only [parent?] at h
  split at h
  · simp at h
  · next notRoot =>
    cases h
    cases hl : Text.beforeLast? '.' n.chars with
    | some l => simpa using Text.beforeLast?_length_lt hl
    | none =>
      simp only [isRoot, List.isEmpty_iff] at notRoot
      simpa [List.length_pos_iff] using notRoot

/-- A name, its parent, the parent's parent and so on up to the root. -/
def lineage (n : Name) : List Name :=
  match _h : n.parent? with
  | none => [n]
  | some p => n :: p.lineage
termination_by n.chars.length
decreasing_by exact length_parent?_lt _h

/-- The names above a name, innermost first. -/
def ancestors (n : Name) : List Name :=
  n.lineage.tail

/-- Whether a text names this logger or one above it. It has to end where a part of the name
    ends: `app.db` lies within `app`, and `app.dbx` does not lie within `app.db`. -/
def isWithin (n : Name) (outer : List Char) : Bool :=
  match outer, Text.after? outer n.chars with
  | [], _ => true
  | _, none => false
  | _, some rest => rest.isEmpty || rest.head? == some '.'

/-! ### Order -/

/-- Whether a name comes before another or is equal to it, compared by code points. -/
def le (a b : Name) : Bool :=
  !decide (b.chars < a.chars)

/-- The names in order of code points. -/
def sort (names : List Name) : List Name :=
  names.mergeSort le

end Name

end LoggerTree
