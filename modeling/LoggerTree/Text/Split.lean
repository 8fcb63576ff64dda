/-! # Cutting and joining texts

    Cuts at a single character, at a doubled colon, and after a given start. Nothing is lost:
    joining the pieces with the separator gives the text back.
-/

namespace LoggerTree.Text

/-! ### At a character -/

/-- The pieces between the occurrences of a separator, empty ones included: a text with `n`
    separators has `n + 1` pieces. -/
def split (separator : Char) : List Char → List (List Char)
  | [] => [[]]
  | c :: s =>
    if c = separator then [] :: split separator s
    else (split separator s).modifyHead (c :: ·)

/-- The two sides of the first occurrence of a separator, if there is one. -/
def cut? (separator : Char) : List Char → Option (List Char × List Char)
  | [] => none
  | c :: s =>
    if c = separator then some ([], s)
    else (cut? separator s).map fun (l, r) => (c :: l, r)

/-- What stands before the last occurrence of a separator, if there is one. -/
def beforeLast? (separator : Char) : List Char → Option (List Char)
  | [] => none
  | c :: s =>
    match beforeLast? separator s with
    | some l => some (c :: l)
    | none => if c = separator then some [] else none

theorem split_ne_nil (separator : Char) (s : List Char) : split separator s ≠ [] := by
  induction s with
  | nil => simp [split]
  | cons c s ih =>
    rw [split]
    split
    · simp
    · cases h : split separator s with
      | nil => exact absurd h ih
      | cons w ws => simp

/-- The part before the last separator is shorter than the text. -/
theorem beforeLast?_length_lt {separator : Char} {s l : List Char}
    (h : beforeLast? separator s = some l) : l.length < s.length := by
  induction s generalizing l with
  | nil => simp [beforeLast?] at h
  | cons c s ih =>
    rw [beforeLast?] at h
    split at h
    · next l' hl =>
      cases h
      simpa using ih hl
    · split at h
      · cases h
        simp
      · exact absurd h (by simp)

/-! ### At a doubled colon -/

/-- The pieces of a path between its `::`, taken from left to right. -/
def splitPath : List Char → List (List Char)
  | ':' :: ':' :: s => [] :: splitPath s
  | c :: s => (splitPath s).modifyHead (c :: ·)
  | [] => [[]]

/-- A path with a dot for each `::`, taken from left to right. -/
def dotted : List Char → List Char
  | ':' :: ':' :: s => '.' :: dotted s
  | c :: s => c :: dotted s
  | [] => []

/-! ### Joining -/

/-- The pieces with a dot between each two. -/
def joinDots (pieces : List (List Char)) : List Char :=
  ['.'].intercalate pieces

/-! ### Starts and sizes -/

/-- What follows a given start, if the text has that start. -/
def after? : List Char → List Char → Option (List Char)
  | [], s => some s
  | _ :: _, [] => none
  | d :: start, c :: s => if d = c then after? start s else none

theorem after?_eq_some_iff {start s rest : List Char} :
    after? start s = some rest ↔ s = start ++ rest := by
  induction start generalizing s with
  | nil => simp [after?, eq_comm]
  | cons d start ih =>
    cases s with
    | nil => simp [after?]
    | cons c s =>
      by_cases h : d = c
      · simp [after?, h, ih]
      · simp [after?, h, Ne.symm h]

/-- The number of bytes of a text in UTF-8. -/
def byteLength : List Char → Nat
  | [] => 0
  | c :: s => c.utf8Size + byteLength s

@[simp] theorem byteLength_nil : byteLength [] = 0 := rfl

@[simp] theorem byteLength_cons (c : Char) (s : List Char) :
    byteLength (c :: s) = c.utf8Size + byteLength s := rfl

end LoggerTree.Text
