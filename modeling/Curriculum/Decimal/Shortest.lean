import Curriculum.Decimal.Binary64

/-!
# The shortest decimal that reads back

Among the decimals that round to a given datum there is a least number of
digits. `shortest` finds it by trying one digit, two digits and so on: on each
decimal grid only the two neighbours of the exact value can qualify, and the
first grid on which one does is the answer. The comparison with the ends of the
interval of numbers that round to the datum is exact.
-/

namespace Curriculum.Decimal

open Binary64 (pow2 pow10)

/-- How many decimal digits a whole number has; zero has one. -/
def length (n : Nat) : Nat := (Nat.toDigits 10 n).length

/-- The positive numbers that round to one datum: from `low / den` to `high / den`, the ends
included if `closed`; the datum itself is `mid / den`. -/
structure Interval where
  low : Nat
  mid : Nat
  high : Nat
  den : Nat
  closed : Bool

/-- The interval of the datum `mantissa * 2 ^ exponent`. Below a power of two the neighbours are
half as far. -/
def interval (mantissa : Nat) (exponent : Int) : Interval :=
  let below := if mantissa = pow2 52 ∧ exponent > Binary64.minExponent then 1 else 2
  let unit : Nat := pow2 exponent.toNat
  { low := (4 * mantissa - below) * unit
    mid := 4 * mantissa * unit
    high := (4 * mantissa + 2) * unit
    den := 4 * pow2 (-exponent).toNat
    closed := mantissa % 2 == 0 }

/-- Whether the fraction `num / den` lies in the interval. -/
def Interval.holds (i : Interval) (num den : Nat) : Bool :=
  let (x, lo, hi) := (num * i.den, i.low * den, i.high * den)
  if i.closed then lo ≤ x && x ≤ hi else lo < x && x < hi

/-- The `k` with `10 ^ (k - 1) ≤ num / den < 10 ^ k`. -/
def magnitude (num den : Nat) : Int :=
  if num ≥ den then length (num / den)
  else 1 - (length ((den + num - 1) / num - 1) : Int)

/-- The number `digits * 10 ^ scale` as a fraction. -/
def fraction (digits : Nat) (scale : Int) : Nat × Nat :=
  if scale < 0 then (digits, pow10 (-scale).toNat) else (digits * pow10 scale.toNat, 1)

/-- The neighbour of the exact value on the grid of multiples of `10 ^ scale` that lies in the
interval: the nearer if both do, the even one if they are equally near. -/
def onGrid (i : Interval) (scale : Int) : Option Nat :=
  let (_, unit) := fraction 1 scale
  let step : Nat := pow10 scale.toNat
  let down := i.mid * unit / (i.den * step)
  let inside (digits : Nat) : Bool :=
    let (n, d) := fraction digits scale
    i.holds n d
  let rest := 2 * (i.mid * unit % (i.den * step))
  match inside down, inside (down + 1) with
  | true, false => some down
  | false, true => some (down + 1)
  | true, true =>
    some (if rest < i.den * step || (rest == i.den * step && down % 2 == 0) then down else down + 1)
  | false, false => none

/-- Tries grids with `count`, `count + 1`, … digits, at most `tries` of them. -/
def search (i : Interval) (k : Int) : (tries count : Nat) → Option (Nat × Int)
  | 0, _ => none
  | tries + 1, count =>
    match onGrid i (k - count) with
    | some digits => some (digits, k - count)
    | none => search i k tries (count + 1)

/-- The decimal `digits * 10 ^ scale` with the fewest digits that rounds to the positive datum
`mantissa * 2 ^ exponent`. Seventeen digits always suffice. -/
def shortest (mantissa : Nat) (exponent : Int) : Nat × Int :=
  let i := interval mantissa exponent
  (search i (magnitude i.mid i.den) 17 1).getD (0, 0)

/-- How a floating-point datum is written. -/
structure Style where
  /-- The least power of ten of the first digit that is still written without an exponent. -/
  positionalFrom : Int
  /-- The first power of ten of the first digit that is written with an exponent. -/
  positionalBelow : Int
  /-- The least number of digits of the exponent, which always has a sign. -/
  exponentWidth : Nat
  infinity : String
  notNumber : String

/-- The digits without the zeros at their end. -/
def dropZeros (cs : List Char) : List Char :=
  (cs.reverse.dropWhile (· == '0')).reverse

/-- Writes the exponent with its sign. -/
def exponentText (width : Nat) (e : Int) : List Char :=
  let ds := Nat.toDigits 10 e.natAbs
  (if e < 0 then '-' else '+') :: List.replicate (width - ds.length) '0' ++ ds

/-- Writes significant digits whose first one has the weight `10 ^ e`. -/
def digitsText (style : Style) (ds : List Char) (e : Int) : List Char :=
  if style.positionalFrom ≤ e ∧ e < style.positionalBelow then
    if e < 0 then '0' :: '.' :: List.replicate (-e - 1).toNat '0' ++ ds
    else
      let whole := e.toNat + 1
      let front := ds.take whole ++ List.replicate (whole - ds.length) '0'
      let back := ds.drop whole
      front ++ '.' :: (if back.isEmpty then ['0'] else back)
  else
    let front := ds.take 1
    let back := ds.drop 1
    front ++ (if back.isEmpty then [] else '.' :: back) ++ 'e' :: exponentText style.exponentWidth e

/-- The text of a datum in a style. -/
def text (style : Style) : Binary64 → String
  | .nan => style.notNumber
  | .infinite negative => (if negative then "-" else "") ++ style.infinity
  | .finite negative m e =>
    let body :=
      if m = 0 then digitsText style ['0'] 0
      else
        let (digits, scale) := shortest m e
        let ds := Nat.toDigits 10 digits
        digitsText style (dropZeros ds) (scale + ds.length - 1)
    String.ofList (if negative then '-' :: body else body)

end Curriculum.Decimal
