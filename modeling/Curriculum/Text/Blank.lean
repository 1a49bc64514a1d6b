import Curriculum.Text.CharTable

/-!
# Blank characters and trimming

Two classes of white space. `isSpace` is the standard's property of that name;
`isBlank` also counts the four information separators U+001C to U+001F, which
separate like a space without being one by that property.
-/

namespace Curriculum.Text

/-- White space by the standard's property. -/
def isSpace (c : Char) : Bool :=
  Ranges.contains [(0x09, 0x0D), (0x20, 0x20), (0x85, 0x85), (0xA0, 0xA0), (0x1680, 0x1680),
    (0x2000, 0x200A), (0x2028, 0x2029), (0x202F, 0x202F), (0x205F, 0x205F), (0x3000, 0x3000)]
    c.toNat

/-- White space or an information separator. -/
def isBlank (c : Char) : Bool :=
  isSpace c || (0x1C ≤ c.toNat && c.toNat ≤ 0x1F)

/-- The text without the characters of a class at its two ends. -/
def trim (p : Char → Bool) (cs : List Char) : List Char :=
  ((cs.dropWhile p).reverse.dropWhile p).reverse

/-- The text without blanks at its two ends. -/
def strip (s : String) : String := String.ofList (trim isBlank s.toList)

example : trim isBlank " a b\n".toList = "a b".toList := by decide

end Curriculum.Text
