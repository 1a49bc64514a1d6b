import Curriculum.Value
import Curriculum.Decimal.Shortest
import Curriculum.Text.Quoted

/-!
# Displayed values

The text that stands for a value in messages and wherever a text is needed but
another value was written. `display` puts texts between quotation marks, so
that a text can be told from a number; `plain` leaves a text as it is and
displays everything else.
-/

namespace Curriculum.Value

/-- Floating-point numbers have the fewest digits that read back, a point with at least one digit
after it, and an exponent of two digits or more outside `10 ^ -4` to `10 ^ 16`. -/
def floatStyle : Decimal.Style where
  positionalFrom := -4
  positionalBelow := 16
  exponentWidth := 2
  infinity := "inf"
  notNumber := "nan"

mutual

/-- The text of a value, with texts quoted. -/
def display : Value → String
  | .null => "None"
  | .bool b => if b then "True" else "False"
  | .int n => toString n
  | .float x => Decimal.text floatStyle x
  | .text s => Text.quote s
  | .list items => "[" ++ ", ".intercalate (displayItems items) ++ "]"
  | .mapping members => "\x7b" ++ ", ".intercalate (displayMembers members) ++ "\x7d"

/-- The texts of the items of a list. -/
def displayItems : List Value → List String
  | [] => []
  | v :: rest => display v :: displayItems rest

/-- The texts of the members of a mapping, each a key and a value with a colon between them. -/
def displayMembers : List (Value × Value) → List String
  | [] => []
  | (key, v) :: rest => (display key ++ ": " ++ display v) :: displayMembers rest

end

/-- The text of a value, a text being its own. -/
def plain : Value → String
  | .text s => s
  | v => v.display

end Curriculum.Value
