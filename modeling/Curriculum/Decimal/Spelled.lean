import Curriculum.Decimal.Digits
import Curriculum.Text.Blank

/-!
# Spelled whole numbers

The whole number that an author wrote as a text. A plain numeral is a minus sign
or none, and digits of which the first is no zero unless it is the only one. A
text that is no plain numeral is tidied: white space around it does not count,
and neither do a plus sign, zeros in front, a point followed by zeros, and single
low lines between digits. What is left has to be a plain numeral. Zeros in front
may have low lines among them, in any number, and a minus sign may still follow
them: `0__7` is seven, and `0-7` is minus seven.

A numeral may have a few thousand digits. A text that starts with a longer one is
refused for that, whatever comes after it; a text that is longer once it is tidied
spells no number.
-/

namespace Curriculum.Decimal

/-- Why a text spells no whole number. -/
inductive Misspelling where
  | unreadable
  /-- It starts with more digits than a numeral may have. -/
  | oversized
deriving DecidableEq, Repr

/-- How many digits a numeral may have. -/
def digitLimit : Nat := 4300

/-- The digits from one to nine. -/
def isLeadingDigit (c : Char) : Bool := '1' ≤ c && c ≤ '9'

/-- What follows zeros in front and low lines among them. The last character of these is kept if
nothing or a point comes after it. -/
def afterZeros (last : Char) : List Char → Option (List Char)
  | [] => some [last]
  | c :: rest =>
    if c = '0' ∨ c = '_' then afterZeros c rest
    else if isLeadingDigit c ∨ c = '-' then some (c :: rest)
    else if c = '.' then some (last :: c :: rest)
    else none

/-- The spelling of a number without zeros in front; there is none unless it starts with a digit
or a minus sign. -/
def withoutZeros : List Char → Option (List Char)
  | [] => none
  | c :: rest =>
    if c = '0' then afterZeros c rest
    else if isLeadingDigit c ∨ c = '-' then some (c :: rest)
    else none

/-- The spelling without zeros in front, behind its own sign. A plus sign is dropped, unless
another sign follows it. -/
def withoutSign : List Char → Option (List Char)
  | '+' :: '-' :: _ => none
  | '+' :: rest => withoutZeros rest
  | '-' :: rest => (withoutZeros rest).map ('-' :: ·)
  | cs => withoutZeros cs

/-- The spelling without a point that only zeros follow, one at least. -/
def withoutPlaces (cs : List Char) : List Char :=
  match cs.dropWhile (· ≠ '.') with
  | _ :: c :: rest => if (c :: rest).all (· = '0') then cs.takeWhile (· ≠ '.') else cs
  | _ => cs

/-- Whether low lines stand alone, and none at either end. -/
def singleLowLines (afterLowLine : Bool) : List Char → Bool
  | [] => !afterLowLine
  | c :: rest => (c ≠ '_' || !afterLowLine) && singleLowLines (c = '_') rest

/-- The spelling without its low lines, if these are where they may be. -/
def withoutLowLines (cs : List Char) : List Char :=
  if singleLowLines true cs then cs.filter (· ≠ '_') else cs

/-- The number that a plain numeral without a sign stands for. -/
def natural (cs : List Char) : Except Misspelling Nat :=
  match cs with
  | ['0'] => .ok 0
  | c :: _ =>
    if isLeadingDigit c then
      let ds := cs.takeWhile Char.isDigit
      if ds.length > digitLimit then .error .oversized
      else if ds.length = cs.length then .ok (digitsValue ds)
      else .error .unreadable
    else .error .unreadable
  | [] => .error .unreadable

/-- The number that a plain numeral stands for. -/
def plainInteger : List Char → Except Misspelling Int
  | '-' :: rest => (natural rest).map fun n => -(n : Int)
  | cs => (natural cs).map Int.ofNat

/-- The number that a text stands for once it is tidied. -/
def tidiedInteger? (cs : List Char) : Option Int := do
  let cs ← withoutSign (Text.trim Text.isSpace cs)
  (plainInteger (withoutLowLines (withoutPlaces cs))).toOption

/-- The whole number that a text spells. -/
def spelledInteger (s : String) : Except Misspelling Int :=
  match plainInteger s.toList with
  | .error .unreadable => (tidiedInteger? s.toList).elim (.error .unreadable) .ok
  | r => r

example : (spelledInteger " +1_000.00 ").toOption = some 1000 := by decide +kernel
example : ["-0__7", "00-5", "-0.0"].map (fun s => (spelledInteger s).toOption)
    = [some (-7), some (-5), some 0] := by decide +kernel
example : ["0__", "1__0", "-0-7", "+-7", "1.", ".0", "1e2"].all
    (fun s => (spelledInteger s).toOption.isNone) := by decide +kernel

end Curriculum.Decimal
