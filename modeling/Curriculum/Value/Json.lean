import Curriculum.Value
import Curriculum.Decimal.Digits

/-!
# Reading values from JSON

A document is read in two passes. The first cuts the characters into tokens:
punctuation, and atoms that carry their value. The second folds the tokens over
a stack of the lists and mappings that are still open. Whole numbers stay
whole; a number with a point or an exponent is a floating-point number. A
repeated member name keeps its first place and takes the last value.
-/

namespace Curriculum.Value.Json

open Decimal (digitsValue)

/-- A token: a punctuation mark or a complete atom. -/
inductive Token where
  | openList
  | closeList
  | openMapping
  | closeMapping
  | comma
  | colon
  | atom (v : Value)

/-! ## Texts -/

/-- The value of a hexadecimal digit. -/
def hexValue (c : Char) : Option Nat :=
  if '0' ≤ c ∧ c ≤ '9' then some (c.toNat - '0'.toNat)
  else if 'a' ≤ c ∧ c ≤ 'f' then some (c.toNat - 'a'.toNat + 10)
  else if 'A' ≤ c ∧ c ≤ 'F' then some (c.toNat - 'A'.toNat + 10)
  else none

/-- The number written with four hexadecimal digits. -/
def unitValue (a b c d : Char) : Option Nat := do
  return (((← hexValue a) * 16 + (← hexValue b)) * 16 + (← hexValue c)) * 16 + (← hexValue d)

/-- The character named by a letter after a backslash. -/
def escaped : Char → Option Char
  | '"' => some '"'
  | '\\' => some '\\'
  | '/' => some '/'
  | 'b' => some '\x08'
  | 'f' => some '\x0c'
  | 'n' => some '\n'
  | 'r' => some '\r'
  | 't' => some '\t'
  | _ => none

/-- Reads a text up to its closing mark and gives what follows. `done` holds the characters read so
far, last first; `half` is the first half of a surrogate pair whose second half must come next. -/
def readText (done : List Char) (half : Option Nat) : List Char → Option (String × List Char)
  | '\\' :: 'u' :: a :: b :: c :: d :: rest =>
    match unitValue a b c d, half with
    | some n, none =>
      if 0xD800 ≤ n ∧ n < 0xDC00 then readText done (some n) rest
      else if 0xDC00 ≤ n ∧ n < 0xE000 then none
      else readText (Char.ofNat n :: done) none rest
    | some n, some first =>
      if 0xDC00 ≤ n ∧ n < 0xE000 then
        readText (Char.ofNat (0x10000 + (first - 0xD800) * 0x400 + (n - 0xDC00)) :: done) none rest
      else none
    | none, _ => none
  | '\\' :: c :: rest =>
    match escaped c, half with
    | some c, none => readText (c :: done) none rest
    | _, _ => none
  | '"' :: rest => if half.isNone then some (String.ofList done.reverse, rest) else none
  | c :: rest => if half.isNone then readText (c :: done) none rest else none
  | [] => none

/-- What follows a text is shorter than the text with what follows. -/
theorem length_of_readText {done : List Char} {half : Option Nat} {cs rest : List Char}
    {s : String} (h : readText done half cs = some (s, rest)) : rest.length < cs.length := by
  fun_induction readText done half cs <;> simp_all <;> omega

/-! ## Numbers and words -/

/-- The exponent at the end of a number: nothing, or a mark, an optional sign and digits. -/
def exponentValue : List Char → Option Int
  | [] => some 0
  | mark :: rest =>
    let (negative, ds) := match rest with
      | '-' :: ds => (true, ds)
      | '+' :: ds => (false, ds)
      | ds => (false, ds)
    if (mark = 'e' ∨ mark = 'E') ∧ ds ≠ [] ∧ ds.all Char.isDigit then
      some (if negative then -digitsValue ds else digitsValue ds)
    else none

/-- A number without its sign. -/
def unsigned (negative : Bool) (cs : List Char) : Option Value :=
  let whole := cs.takeWhile Char.isDigit
  match whole, cs.dropWhile Char.isDigit with
  | [], _ => none
  | _, [] => some (.int (if negative then -digitsValue whole else digitsValue whole))
  | _, '.' :: rest =>
    let places := rest.takeWhile Char.isDigit
    if places.isEmpty then none
    else (exponentValue (rest.dropWhile Char.isDigit)).map fun e =>
      .float (Binary64.ofDecimal negative (digitsValue (whole ++ places)) (e - places.length))
  | _, rest =>
    (exponentValue rest).map fun e => .float (Binary64.ofDecimal negative (digitsValue whole) e)

/-- The value of a word or number. -/
def atom? (cs : List Char) : Option Value :=
  if cs = "null".toList then some .null
  else if cs = "true".toList then some (.bool true)
  else if cs = "false".toList then some (.bool false)
  else if cs = "NaN".toList then some (.float .nan)
  else if cs = "Infinity".toList then some (.float (.infinite false))
  else if cs = "-Infinity".toList then some (.float (.infinite true))
  else match cs with
    | '-' :: rest => unsigned true rest
    | _ => unsigned false cs

/-- The characters that words and numbers are made of. -/
def inWord (c : Char) : Bool := c.isAlphanum || c == '-' || c == '+' || c == '.'

/-! ## Tokens -/

/-- The punctuation marks. -/
def punctuation : Char → Option Token
  | '[' => some .openList
  | ']' => some .closeList
  | '\x7b' => some .openMapping
  | '\x7d' => some .closeMapping
  | ',' => some .comma
  | ':' => some .colon
  | _ => none

/-- Cuts the characters into tokens. -/
def tokens (cs : List Char) : Option (List Token) :=
  match cs with
  | [] => some []
  | c :: rest =>
    if c = ' ' ∨ c = '\n' ∨ c = '\r' ∨ c = '\t' then tokens rest
    else match punctuation c with
      | some mark => (tokens rest).map (mark :: ·)
      | none =>
        if c = '"' then
          match h : readText [] none rest with
          | some (s, rest') =>
            have := length_of_readText h
            (tokens rest').map (Token.atom (.text s) :: ·)
          | none => none
        else
          match atom? (c :: rest.takeWhile inWord) with
          | some v =>
            have : (rest.dropWhile inWord).length ≤ rest.length :=
              (List.dropWhile_sublist _).length_le
            (tokens (rest.dropWhile inWord)).map (Token.atom v :: ·)
          | none => none
termination_by cs.length
decreasing_by all_goals simp_all <;> omega

/-! ## Values -/

/-- A list or mapping that is still open, with what it holds so far, last first. -/
inductive Frame where
  | items (done : List Value)
  | member (done : List (Value × Value)) (key : Value)

mutual

/-- Reads a value inside the open frames. -/
def value (frames : List Frame) : List Token → Option Value
  | .atom v :: rest => finish v frames rest
  | .openList :: .closeList :: rest => finish (.list []) frames rest
  | .openList :: rest => value (.items [] :: frames) rest
  | .openMapping :: .closeMapping :: rest => finish (.mapping []) frames rest
  | .openMapping :: .atom (.text key) :: .colon :: rest =>
    value (.member [] (.text key) :: frames) rest
  | _ => none

/-- Goes on after a complete value inside the open frames. -/
def finish (v : Value) (frames : List Frame) : List Token → Option Value
  | [] => if frames.isEmpty then some v else none
  | .comma :: .atom (.text next) :: .colon :: rest =>
    match frames with
    | .member done key :: frames => value (.member ((key, v) :: done) (.text next) :: frames) rest
    | _ => none
  | .comma :: rest =>
    match frames with
    | .items done :: frames => value (.items (v :: done) :: frames) rest
    | _ => none
  | .closeList :: rest =>
    match frames with
    | .items done :: frames => finish (.list (v :: done).reverse) frames rest
    | _ => none
  | .closeMapping :: rest =>
    match frames with
    | .member done key :: frames =>
      finish (.mapping (Members.ofList ((key, v) :: done).reverse)) frames rest
    | _ => none
  | _ => none

end

/-- Reads a whole text as one value. -/
def parse? (s : String) : Option Value := do value [] (← tokens s.toList)

end Curriculum.Value.Json
