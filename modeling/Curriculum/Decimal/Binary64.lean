/-!
# Floating-point data

The binary64 format as exact data: a sign, a whole mantissa and a power of two,
or one of the exceptional data. A decimal is read by rounding it once, to the
nearest datum and to the even mantissa when two are equally near. All of it is
arithmetic on natural numbers.
-/

namespace Curriculum

/-- A datum of the binary64 format. A finite one stands for `± mantissa * 2 ^ exponent`, with the
mantissa below `2 ^ 53` and the exponent at least `-1074`. -/
inductive Binary64 where
  | finite (negative : Bool) (mantissa : Nat) (exponent : Int)
  | infinite (negative : Bool)
  | nan
deriving DecidableEq, Repr

namespace Binary64

/-- A power of two. -/
def pow2 (k : Nat) : Nat := Nat.pow 2 k

/-- A power of ten. -/
def pow10 (k : Nat) : Nat := Nat.pow 10 k

/-- The least exponent. -/
def minExponent : Int := -1074

/-- The greatest exponent of a finite datum. -/
def maxExponent : Int := 971

/-- The quotient rounded to the nearest whole number, a half to the even neighbour. -/
def roundDiv (num den : Nat) : Nat :=
  let q := num / den
  let twice := 2 * (num % den)
  if twice > den || (twice == den && q % 2 == 1) then q + 1 else q

/-- The quotient `num / (den * 2 ^ e)` as a fraction of two whole numbers. -/
def scaled (num den : Nat) (e : Int) : Nat × Nat :=
  if e < 0 then (num * pow2 (-e).toNat, den) else (num, den * pow2 e.toNat)

/-- The exponent at which `num / den` has a mantissa of 53 binary digits, or the least exponent if
the quotient is too small for that. -/
def exponentOf (num den : Nat) : Int :=
  let guess : Int := (num.log2 : Int) - den.log2 - 53
  let (n, d) := scaled num den guess
  max minExponent (if n / d < pow2 53 then guess else guess + 1)

/-- The datum nearest to `± num / den`. -/
def ofFraction (negative : Bool) (num den : Nat) : Binary64 :=
  if num = 0 then .finite negative 0 minExponent
  else
    let e := exponentOf num den
    let (n, d) := scaled num den e
    let m := roundDiv n d
    let (m, e) := if m = pow2 53 then (pow2 52, e + 1) else (m, e)
    if e > maxExponent then .infinite negative else .finite negative m e

/-- The datum nearest to the decimal `± digits * 10 ^ scale`. Decimals far beyond the finite data at
either end are settled by their scale. -/
def ofDecimal (negative : Bool) (digits : Nat) (scale : Int) : Binary64 :=
  if digits = 0 ∨ scale < -(digits.log2 + 1100) then .finite negative 0 minExponent
  else if scale > 400 then .infinite negative
  else if scale < 0 then ofFraction negative digits (pow10 (-scale).toNat)
  else ofFraction negative (digits * pow10 scale.toNat) 1

/-- Both zeros, and no other datum. -/
def isZero : Binary64 → Bool
  | .finite _ m _ => m == 0
  | _ => false

/-- The whole number that a datum stands for, if it stands for one. -/
def toInt? : Binary64 → Option Int
  | .finite negative m e =>
    let sign : Int := if negative then -1 else 1
    if e ≥ 0 then some (sign * (m * pow2 e.toNat : Nat))
    else if m % pow2 (-e).toNat = 0 then some (sign * (m / pow2 (-e).toNat : Nat))
    else none
  | _ => none

/-- Whether two data are the same number: the two zeros are, and a datum that is no number equals
nothing, itself included. -/
def sameNumber : Binary64 → Binary64 → Bool
  | .finite n m e, .finite n' m' e' => (m == 0 && m' == 0) || (n == n' && m == m' && e == e')
  | .infinite n, .infinite n' => n == n'
  | _, _ => false

example : ofDecimal false 1 0 = .finite false 4503599627370496 (-52) := by decide +kernel
example : ofDecimal false 5 (-324) = .finite false 1 (-1074) := by decide +kernel
example : ofDecimal false 18 308 = .infinite false := by decide +kernel
example : (ofDecimal true 25 (-1)).toInt? = none ∧ (ofDecimal true 20 (-1)).toInt? = some (-2) := by
  decide +kernel

end Binary64
end Curriculum
