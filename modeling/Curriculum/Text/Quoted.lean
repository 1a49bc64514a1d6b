import Curriculum.Text.Printable

/-!
# Quoted texts

A text shown between quotation marks: single ones, unless the text holds a
single mark and no double one. The marks used, backslashes and the characters
that are not printable are written with a backslash, the latter by name (`\n`,
`\r`, `\t`) or by the shortest of the three forms with two, four or eight
hexadecimal digits.
-/

namespace Curriculum.Text

/-- The last `width` hexadecimal digits of a number. -/
def hexDigits : (width : Nat) → Nat → List Char
  | 0, _ => []
  | width + 1, n => hexDigits width (n / 16) ++ [Nat.digitChar (n % 16)]

/-- The mark that a text is quoted with. -/
def quoteMark (cs : List Char) : Char :=
  if cs.contains '\'' && !cs.contains '"' then '"' else '\''

/-- How one character is written between two marks. -/
def quoteChar (mark c : Char) : List Char :=
  if c = mark || c = '\\' then ['\\', c]
  else if c = '\n' then ['\\', 'n']
  else if c = '\r' then ['\\', 'r']
  else if c = '\t' then ['\\', 't']
  else if isPrintable c then [c]
  else if c.toNat < 0x100 then '\\' :: 'x' :: hexDigits 2 c.toNat
  else if c.toNat < 0x10000 then '\\' :: 'u' :: hexDigits 4 c.toNat
  else '\\' :: 'U' :: hexDigits 8 c.toNat

/-- The text between quotation marks. -/
def quote (s : String) : String :=
  let mark := quoteMark s.toList
  String.ofList (mark :: s.toList.flatMap (quoteChar mark) ++ [mark])

example : quoteMark "it's".toList = '"' := by decide
example : quoteChar '\'' '\x7f' = "\\x7f".toList := by decide
example : hexDigits 4 0x200b = "200b".toList := by decide

end Curriculum.Text
