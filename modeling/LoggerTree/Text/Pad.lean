/-! # Padding

    A shown value is cut to a number of characters and then filled up to a width. Both numbers
    are optional and count characters.
-/

namespace LoggerTree.Text

/-- Where the value stands among the filling. -/
inductive Align where
  | left
  | center
  | right
  deriving DecidableEq

/-- How a value is fitted into a column. -/
structure Padding where
  align : Align := .left
  fill : Char := ' '
  width : Option Nat := none
  precision : Option Nat := none

namespace Padding

/-- The value cut to the precision. -/
def cutTo (p : Padding) (s : List Char) : List Char :=
  match p.precision with
  | some n => s.take n
  | none => s

/-- The characters that go before a value that leaves `gap` of them free: of an odd gap the
    centred value has the larger half behind it. -/
def before (align : Align) (gap : Nat) : Nat :=
  match align with
  | .left => 0
  | .center => gap / 2
  | .right => gap

/-- Cuts, then fills up. -/
def apply (p : Padding) (s : List Char) : List Char :=
  let t := p.cutTo s
  let gap := p.width.getD 0 - t.length
  let front := before p.align gap
  List.replicate front p.fill ++ t ++ List.replicate (gap - front) p.fill

theorem before_le (align : Align) (gap : Nat) : before align gap ≤ gap := by
  cases align <;> simp [before, Nat.div_le_self]

/-- A padded value is as long as the width or as the cut value, whichever is more. -/
theorem length_apply (p : Padding) (s : List Char) :
    (p.apply s).length = max (p.width.getD 0) (p.cutTo s).length := by
  have h := before_le p.align (p.width.getD 0 - (p.cutTo s).length)
  simp only [apply, List.length_append, List.length_replicate]
  omega

end Padding

end LoggerTree.Text
