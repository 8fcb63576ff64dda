import LoggerTree.Text.Blank
import LoggerTree.Text.Split
import LoggerTree.Toml.Value

/-! # TOML numbers, words and dates

    How a bare run of characters is read as a boolean, an integer, a floating-point number, a
    date or a time.
-/

namespace LoggerTree.Toml.Scalar

/-! ### Digits -/

/-- The value of a digit to a base up to sixteen. -/
def digitValue? (base : Nat) (c : Char) : Option Nat :=
  let value :=
    if c.isDigit then some (c.toNat - '0'.toNat)
    else if 'a' ≤ c ∧ c ≤ 'f' then some (10 + (c.toNat - 'a'.toNat))
    else if 'A' ≤ c ∧ c ≤ 'F' then some (10 + (c.toNat - 'A'.toNat))
    else none
  value.filter (· < base)

/-- Digits, of which single underscores may part any two. -/
def digits? (base : Nat) (s : List Char) : Option (List Nat) :=
  let groups := Text.split '_' s
  if groups.any (·.isEmpty) then none
  else groups.flatten.mapM (digitValue? base)

/-- The number that digits stand for. -/
def ofDigits (base : Nat) (digits : List Nat) : Nat :=
  digits.foldl (fun n d => n * base + d) 0

/-- A number in digits. -/
def number? (base : Nat) (s : List Char) : Option Nat :=
  (digits? base s).map (ofDigits base)

/-- A sign. -/
inductive Sign where
  | none
  | plus
  | minus
  deriving DecidableEq

/-- Takes a sign off. -/
def signed : List Char → Sign × List Char
  | '+' :: s => (.plus, s)
  | '-' :: s => (.minus, s)
  | s => (.none, s)

/-- An integer with a sign. -/
def Sign.apply (sign : Sign) (n : Nat) : Int :=
  if sign = .minus then -Int.ofNat n else Int.ofNat n

/-- A decimal number without needless zeros in front. -/
def decimal? (s : List Char) : Option Nat :=
  if s.head? = some '0' ∧ s ≠ ['0'] then none else number? 10 s

/-! ### Numbers -/

/-- An integer to base ten with an optional sign, or to base sixteen, eight or two. -/
def integer? : List Char → Option Int
  | '0' :: 'x' :: s => (number? 16 s).map Int.ofNat
  | '0' :: 'o' :: s => (number? 8 s).map Int.ofNat
  | '0' :: 'b' :: s => (number? 2 s).map Int.ofNat
  | s =>
    let (sign, s) := signed s
    (decimal? s).map sign.apply

/-- Whether a run has the looks of an integer. A base alone has them, and so has a decimal number
    that goes on behind an underscore with whatever is no fraction, as long as all underscores
    stand between hexadecimal digits. -/
def looksInteger (s : List Char) : Bool :=
  let isHex (c : Char) : Bool := (digitValue? 16 c).isSome
  let digits := (signed s).2
  match Text.split '_' digits with
  | first :: groups =>
    if groups.isEmpty then s ∈ [['0', 'x'], ['0', 'o'], ['0', 'b']]
    else
      !first.isEmpty && first.all Char.isDigit && first.head? ≠ some '0' &&
      !digits.any (['.', 'e', 'E'].contains ·) &&
      groups.all (·.head?.any isHex) && groups.dropLast.all (·.getLast?.any isHex)
  | [] => false

/-- A power of ten, in which zeros may stand in front. -/
def power? (s : List Char) : Option Int :=
  let (sign, s) := signed s
  (number? 10 s).map sign.apply

/-- A number with a fraction, a power of ten or both, without its sign. -/
def fractional? (s : List Char) : Option (Nat × Int) := do
  let mantissa := s.takeWhile fun c => c != 'e' && c != 'E'
  let power ← match s.drop mantissa.length with
    | [] => some 0
    | _ :: s => power? s
  match Text.cut? '.' mantissa with
  | none => if mantissa.length = s.length then none else return (← decimal? mantissa, power)
  | some (whole, fraction) =>
    let whole ← decimal? whole
    let fraction ← digits? 10 fraction
    return (ofDigits 10 fraction + whole * Nat.pow 10 fraction.length, power - fraction.length)

/-- A floating-point number. -/
def float? (s : List Char) : Option Float :=
  let (sign, s) := signed s
  let negative := sign = .minus
  if s = ['i', 'n', 'f'] then some (.infinite negative)
  else if s = ['n', 'a', 'n'] then some .nan
  else (fractional? s).map fun (digits, power) => .decimal negative digits power

/-! ### Dates and times -/

/-- A number of a fixed count of digits, no less than `low` and no more than `high`. -/
def field? (count low high : Nat) (s : List Char) : Option Nat := do
  if s.length ≠ count ∨ !s.all Char.isDigit then none
  else
    let n ← number? 10 s
    if low ≤ n ∧ n ≤ high then return n else none

/-- The number of days of a month. -/
def daysIn (year month : Nat) : Nat :=
  if month = 2 then
    if year % 4 = 0 ∧ (year % 100 ≠ 0 ∨ year % 400 = 0) then 29 else 28
  else if month ∈ [4, 6, 9, 11] then 30
  else 31

/-- A date as in `1979-05-27`, in its normal form. -/
def date? (s : List Char) : Option (List Char) := do
  match Text.split '-' s with
  | [y, m, d] =>
    let year ← field? 4 0 9999 y
    let month ← field? 2 1 12 m
    let _ ← field? 2 1 (daysIn year month) d
    return s
  | _ => none

/-- The part of a second: at most nine digits count, and zeros at the end do not. -/
def subsecond? (s : List Char) : Option (List Char) :=
  if s.isEmpty || !s.all Char.isDigit then none
  else
    let kept := Text.dropEndWhile (· == '0') (s.take 9)
    some (if kept.isEmpty then [] else '.' :: kept)

/-- A time as in `07:32:00.5`, in its normal form. Seconds that are left out are zero. -/
def time? (s : List Char) : Option (List Char) := do
  match Text.split ':' s with
  | [h, m] =>
    let _ ← field? 2 0 23 h
    let _ ← field? 2 0 59 m
    return s ++ [':', '0', '0']
  | [h, m, rest] =>
    let _ ← field? 2 0 23 h
    let _ ← field? 2 0 59 m
    match Text.cut? '.' rest with
    | none =>
      let _ ← field? 2 0 60 rest
      return s
    | some (second, fraction) =>
      let _ ← field? 2 0 60 second
      return h ++ ':' :: m ++ ':' :: second ++ (← subsecond? fraction)
  | _ => none

/-- A distance from universal time, in its normal form. -/
def offset? : List Char → Option (List Char)
  | ['Z'] => some ['Z']
  | ['z'] => some ['Z']
  | sign :: s => do
    if sign ≠ '+' ∧ sign ≠ '-' then none
    else
      match Text.split ':' s with
      | [h, m] =>
        let hours ← field? 2 0 23 h
        let minutes ← field? 2 0 59 m
        return (if hours = 0 ∧ minutes = 0 then '+' else sign) :: s
      | _ => none
  | [] => none

/-- A time with an optional offset behind it. -/
def timeWithOffset? (s : List Char) : Option (List Char) :=
  let time := s.takeWhile fun c => c.isDigit || c == ':' || c == '.'
  match s.drop time.length with
  | [] => time? time
  | offset => do return (← time? time) ++ (← offset? offset)

/-- A date, a time, or a date and a time with a `T` or a blank between them. -/
def datetime? (s : List Char) : Option (List Char) :=
  match s.drop 10 with
  | [] => (date? s).or (time? s)
  | separator :: time =>
    if separator = 'T' ∨ separator = 't' ∨ separator = ' ' then do
      return (← date? (s.take 10)) ++ 'T' :: (← timeWithOffset? time)
    else time? s

/-! ### Any of them -/

/-- The value that a bare run of characters stands for. -/
def value? (s : List Char) : Option Value :=
  if s = ['t', 'r', 'u', 'e'] then some (.boolean true)
  else if s = ['f', 'a', 'l', 's', 'e'] then some (.boolean false)
  else
    match integer? s, float? s, datetime? s with
    | some n, _, _ => some (.integer n)
    | none, some x, _ => some (.float x)
    | none, none, some d => some (.datetime d)
    | none, none, none => if looksInteger s then some .lookalike else none

end LoggerTree.Toml.Scalar
