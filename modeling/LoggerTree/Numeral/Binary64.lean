/-! # Binary floating point with 53 bits

    A positive rational number is rounded to the nearest number of the form `m * 2 ^ p` with
    `m < 2 ^ 53` and `p` from -1074 to 971, a tie going to the even `m`. Such a number is written
    with the fewest digits that are rounded back to it, without an exponent.
-/

namespace LoggerTree.Numeral

/-- A positive fraction. -/
structure Fraction where
  numerator : Nat
  denominator : Nat

namespace Fraction

/-- The fraction `n * base ^ e`. -/
def scaled (n base : Nat) (e : Int) : Fraction :=
  if 0 ≤ e then ⟨n * base.pow e.toNat, 1⟩ else ⟨n, base.pow (-e).toNat⟩

/-- The fraction divided by `base ^ e`. -/
def downBy (f : Fraction) (base : Nat) (e : Int) : Fraction :=
  if 0 ≤ e then ⟨f.numerator, f.denominator * base.pow e.toNat⟩
  else ⟨f.numerator * base.pow (-e).toNat, f.denominator⟩

/-- Rounds down. -/
def floor (f : Fraction) : Nat :=
  f.numerator / f.denominator

/-- Rounds to the nearest number, a tie going to the even one. -/
def nearest (f : Fraction) : Nat :=
  let q := f.floor
  let twice := 2 * (f.numerator - q * f.denominator)
  if twice < f.denominator then q
  else if f.denominator < twice then q + 1
  else q + q % 2

/-- Rounds to the nearest number, a tie going to the greater one. -/
def halfUp (f : Fraction) : Nat :=
  (2 * f.numerator + f.denominator) / (2 * f.denominator)

end Fraction

/-- A positive number `mantissa * 2 ^ exponent`. -/
structure Binary64 where
  mantissa : Nat
  exponent : Int

namespace Binary64

/-! ### Rounding -/

/-- The exponent that leaves a fraction 53 bits before the point, or the least exponent. -/
def exponentFor (f : Fraction) : Int :=
  let bits : Int := f.numerator.log2 - f.denominator.log2
  let p := if (f.downBy 2 (bits - 53)).floor < Nat.pow 2 53 then bits - 53 else bits - 52
  max p (-1074)

/-- The nearest number, if there is one that is not beyond the greatest. -/
def ofFraction? (f : Fraction) : Option Binary64 :=
  let p := exponentFor f
  let m := (f.downBy 2 p).nearest
  let x : Binary64 := if m = Nat.pow 2 53 then ⟨Nat.pow 2 52, p + 1⟩ else ⟨m, p⟩
  if x.exponent ≤ 971 then some x else none

/-! ### Fewest digits -/

/-- Whether a fraction is rounded to this number: it lies no further than half a step away, where
    the half itself counts for an even mantissa, and the step below a power of two is half as
    wide. All is measured in quarters of a step. -/
def attracts (x : Binary64) (f : Fraction) : Bool :=
  let quarters := f.downBy 2 (x.exponent - 2)
  let narrow := x.mantissa = Nat.pow 2 52 ∧ -1074 < x.exponent
  let low := (4 * x.mantissa - if narrow then 1 else 2) * quarters.denominator
  let high := (4 * x.mantissa + 2) * quarters.denominator
  if x.mantissa % 2 = 0 then low ≤ quarters.numerator && quarters.numerator ≤ high
  else low < quarters.numerator && quarters.numerator < high

/-- The exact value. -/
def toFraction (x : Binary64) : Fraction :=
  .scaled x.mantissa 2 x.exponent

/-- The power of ten of the first digit of a fraction. -/
def leadingPower (f : Fraction) : Int :=
  if f.denominator ≤ f.numerator then (Nat.toDigits 10 f.floor).length - 1
  else
    match (List.range 400).find? fun k => f.denominator ≤ f.numerator * Nat.pow 10 k with
    | some k => -k
    | none => -400

/-- The number on a decimal grid that is rounded to `x` and nearest to it, if there is one. Of two
    that are equally near it is the greater. -/
def onGrid? (x : Binary64) (power : Int) : Option Nat :=
  let here := x.toFraction.downBy 10 power
  let candidates := [here.halfUp, here.floor, here.floor + 1]
  candidates.find? fun n => x.attracts (.scaled n 10 power)

/-- The digits as a number and the power of ten of the last one, taken from the coarsest grid that
    has a number which is rounded to `x`. It may be one above the first digit of `x` itself, as for
    the neighbour below a power of ten. -/
def shortest (x : Binary64) : Nat × Int :=
  let top := leadingPower x.toFraction + 1
  let grids := (List.range 18).map fun (k : Nat) => top - k
  match grids.findSome? fun power => (x.onGrid? power).map (·, power) with
  | some found => found
  | none => (x.toFraction.floor, 0)

end Binary64

/-! ### Positional notation -/

/-- The number `n * 10 ^ power` in digits, with a point and at least one digit after it. -/
def positional (n : Nat) (power : Int) : List Char :=
  if 0 ≤ power then Nat.toDigits 10 (n * Nat.pow 10 power.toNat) ++ ['.', '0']
  else
    let places := (-power).toNat
    let digits := Nat.toDigits 10 n
    let padded := List.replicate (places + 1 - digits.length) '0' ++ digits
    padded.take (padded.length - places) ++ '.' :: padded.drop (padded.length - places)

/-- A number with a point and the fewest digits that are rounded back to it. -/
def Binary64.display (x : Binary64) : List Char :=
  if x.mantissa = 0 then ['0', '.', '0']
  else
    let (digits, power) := x.shortest
    positional digits power

end LoggerTree.Numeral
