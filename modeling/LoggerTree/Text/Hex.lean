/-! # Hexadecimal numbers

    Numbers to base sixteen: written in lower case, read in either case.
-/

namespace LoggerTree.Text

/-- A number in lower-case hexadecimal digits. -/
def hexDigits (n : Nat) : List Char :=
  Nat.toDigits 16 n

/-- The number that hexadecimal digits stand for. -/
def hexValue? (digits : List Char) : Option Nat :=
  digits.foldlM (fun n c =>
    if c.isDigit then some (n * 16 + (c.toNat - '0'.toNat))
    else if 'a' ≤ c ∧ c ≤ 'f' then some (n * 16 + 10 + (c.toNat - 'a'.toNat))
    else if 'A' ≤ c ∧ c ≤ 'F' then some (n * 16 + 10 + (c.toNat - 'A'.toNat))
    else none) 0

/-- The number that the next `count` hexadecimal digits stand for, and the rest. -/
def takeHex? (count : Nat) (s : List Char) : Option (Nat × List Char) :=
  if s.length < count then none
  else (hexValue? (s.take count)).map (·, s.drop count)

end LoggerTree.Text
