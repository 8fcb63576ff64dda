import LoggerTree.Text.Alphanumeric
import LoggerTree.Text.Blank

/-! # Type texts

    A **type text** is the written form of a type, as in `&app::Wrapper<u32>`. Where it is a plain
    path, with marks in front and arguments behind, a logger can be named after the path alone.
-/

namespace LoggerTree.TypeText

/-! ### Marks -/

/-- What follows one of the marks `&mut `, `&` and `dyn `, if the text starts with one. -/
def afterMark? : List Char → Option (List Char)
  | '&' :: 'm' :: 'u' :: 't' :: ' ' :: s => some s
  | '&' :: s => some s
  | 'd' :: 'y' :: 'n' :: ' ' :: s => some s
  | _ => none

theorem afterMark?_length_lt {s r : List Char} (h : afterMark? s = some r) :
    r.length < s.length := by
  unfold afterMark? at h
  split at h <;> cases h <;> simp <;> omega

/-- The text behind all marks in front of it, and behind the blanks that follow each. -/
def unmarked (s : List Char) : List Char :=
  match _h : afterMark? s with
  | none => s
  | some r => unmarked (Text.trimStart r)
termination_by s.length
decreasing_by
  exact Nat.lt_of_le_of_lt (Text.trimStart_length_le r) (afterMark?_length_lt _h)

/-! ### Paths and arguments -/

/-- Whether a character may stand in a path. -/
def isPathChar (c : Char) : Bool :=
  Text.isAlphanumeric c || c == '_' || c == ':'

/-- Whether a text is a path: characters of paths, at least one, with no colon at either end. -/
def isPath (s : List Char) : Bool :=
  !s.isEmpty && s.head? != some ':' && s.getLast? != some ':' && s.all isPathChar

/-- Whether what follows a path is an argument list, and if so whether an argument has arguments
    itself. An argument list is nothing, or starts with `<` and ends with another bracket `>`. -/
def isHigherKinded? : List Char → Option Bool
  | [] => some false
  | '<' :: s => if s.getLast? = some '>' then some (s.dropLast.contains '<') else none
  | _ => none

/-! ### Erasure -/

/-- A plain path, and whether one of its generic arguments is generic itself. -/
structure Erased where
  path : List Char
  higherKinded : Bool
  deriving DecidableEq

/-- The path of a type text without its marks and arguments. Tuples, slices, arrays, pointers,
    functions and closures have none. -/
def erase (raw : List Char) : Option Erased :=
  let s := unmarked (Text.trim raw)
  let path := s.takeWhile (· != '<')
  if isPath path then
    (isHigherKinded? (s.dropWhile (· != '<'))).map fun higherKinded => ⟨path, higherKinded⟩
  else none

theorem isPath_of_erase {raw : List Char} {e : Erased} (h : erase raw = some e) :
    isPath e.path = true := by
  simp only [erase] at h
  split at h
  · next path =>
    obtain ⟨_, _, rfl⟩ := Option.map_eq_some_iff.1 h
    exact path
  · simp at h

end LoggerTree.TypeText
