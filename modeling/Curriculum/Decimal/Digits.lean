/-!
# Decimal digits

The number that a list of decimal digits stands for, the digits of greater
weight first.
-/

namespace Curriculum.Decimal

/-- The number that a list of decimal digits stands for. -/
def digitsValue (ds : List Char) : Nat :=
  ds.foldl (fun n c => 10 * n + (c.toNat - '0'.toNat)) 0

example : digitsValue ['0', '4', '2'] = 42 := by decide

end Curriculum.Decimal
