import LoggerTree.Numeral.Binary64
import LoggerTree.Toml.Value

/-! # Numbers of a TOML document

    A document may write numbers of any size. Here stands which of them a reader can hold, and
    how those are shown.
-/

namespace LoggerTree.Toml

/-! ### Integers -/

/-- Whether an integer fits into so many bits with a sign. -/
def fitsSigned (bits : Nat) (n : Int) : Bool :=
  -(Nat.pow 2 (bits - 1) : Int) ≤ n && n < Nat.pow 2 (bits - 1)

/-- Whether an integer fits into so many bits, with a sign or without. -/
def fitsEither (bits : Nat) (n : Int) : Bool :=
  -(Nat.pow 2 (bits - 1) : Int) ≤ n && n < Nat.pow 2 bits

/-! ### Floating-point numbers -/

namespace Float

/-- The positive number `digits * 10 ^ power` rounded to 53 bits, if it is not beyond the greatest
    one. Powers far out of range are told by the number of digits alone. -/
def rounded? (digits : Nat) (power : Int) : Option Numeral.Binary64 :=
  let magnitude := (Nat.toDigits 10 digits).length + power
  if 310 < magnitude then none
  else if magnitude < -330 then some ⟨0, 0⟩
  else Numeral.Binary64.ofFraction? (.scaled digits 10 power)

/-- How a floating-point number is shown, unless it is too large to be held. -/
def display? : Float → Option (List Char)
  | nan => some ['N', 'a', 'N']
  | infinite negative => some (if negative then ['-', 'i', 'n', 'f'] else ['i', 'n', 'f'])
  | decimal negative digits power =>
    let magnitude := if digits = 0 then some ⟨0, 0⟩ else rounded? digits power
    magnitude.map fun x => if negative then '-' :: x.display else x.display

end Float

/-! ### All numbers of a value -/

mutual

/-- Whether all numbers in a value can be held, where `integer` tells which integers can. -/
def Value.holds (integer : Int → Bool) : Value → Bool
  | .integer n => integer n
  | .lookalike => false
  | .float x => x.display?.isSome
  | .array _ items => itemsHold integer items
  | .table _ entries => entriesHold integer entries
  | .string _ | .boolean _ | .datetime _ => true

/-- As `Value.holds`, for the items of an array. -/
def itemsHold (integer : Int → Bool) : List Node → Bool
  | [] => true
  | (_, v) :: items => v.holds integer && itemsHold integer items

/-- As `Value.holds`, for the entries of a table. -/
def entriesHold (integer : Int → Bool) : Entries → Bool
  | [] => true
  | (_, _, v) :: entries => v.holds integer && entriesHold integer entries

end

end LoggerTree.Toml
