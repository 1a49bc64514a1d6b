import Curriculum.Value.Display

/-!
# Writing values as JSON

The text of a value as JSON, on one line or with one member to a line. A key
that is not a text is written as the text that displays it, so the levels of a
world, which are numbered, become members named by their numbers. JSON has no
infinities: what is no finite number is written as if nothing were there.
-/

namespace Curriculum.Value

/-- How JSON is laid out. -/
structure JsonLayout where
  /-- Whether characters beyond ASCII are written as escapes. -/
  asciiOnly : Bool
  /-- The width of one step of indentation; without it everything stands on one line. -/
  step : Option Nat

/-- One unit of UTF-16 as an escape. -/
def jsonUnit (n : Nat) : List Char := '\\' :: 'u' :: Text.hexDigits 4 n

/-- How one character is written inside a JSON text. -/
def jsonChar (asciiOnly : Bool) (c : Char) : List Char :=
  if c = '"' then ['\\', '"']
  else if c = '\\' then ['\\', '\\']
  else if c = '\n' then ['\\', 'n']
  else if c = '\r' then ['\\', 'r']
  else if c = '\t' then ['\\', 't']
  else if c = '\x08' then ['\\', 'b']
  else if c = '\x0c' then ['\\', 'f']
  else if c.toNat < 0x20 then jsonUnit c.toNat
  else if asciiOnly ∧ c.toNat > 0xFFFF then
    jsonUnit (0xD800 + (c.toNat - 0x10000) / 0x400)
      ++ jsonUnit (0xDC00 + (c.toNat - 0x10000) % 0x400)
  else if asciiOnly ∧ c.toNat > 0x7F then jsonUnit c.toNat
  else [c]

/-- A JSON text with its marks. -/
def jsonString (layout : JsonLayout) (s : String) : String :=
  String.ofList ('"' :: s.toList.flatMap (jsonChar layout.asciiOnly) ++ ['"'])

/-- Sets parts between two marks, one to a line if the layout has lines. -/
def jsonBlock (layout : JsonLayout) (depth : Nat) (first last : String) (parts : List String) :
    String :=
  match parts, layout.step with
  | [], _ => first ++ last
  | _, none => first ++ ",".intercalate parts ++ last
  | _, some width =>
    let line (depth : Nat) := "\n" ++ String.ofList (List.replicate (width * depth) ' ')
    first ++ line (depth + 1) ++ ("," ++ line (depth + 1)).intercalate parts ++ line depth ++ last

/-- What JSON can hold of a value. -/
def jsonForm : Value → Value
  | .float .nan | .float (.infinite _) => .null
  | v => v

/-- The word for a truth value. -/
def jsonWord (b : Bool) : String := if b then "true" else "false"

/-- The name of a member. -/
def jsonKey (key : Value) : String :=
  match jsonForm key with
  | .bool b => jsonWord b
  | key => key.plain

mutual

/-- The JSON text of a value at a depth of nesting. -/
def jsonAt (layout : JsonLayout) (depth : Nat) : Value → String
  | .null | .float .nan | .float (.infinite _) => "null"
  | .bool b => jsonWord b
  | .int n => toString n
  | .float x => Decimal.text floatStyle x
  | .text s => jsonString layout s
  | .list items => jsonBlock layout depth "[" "]" (jsonItems layout (depth + 1) items)
  | .mapping members =>
    jsonBlock layout depth "\x7b" "\x7d" (jsonMembers layout (depth + 1) members)

/-- The JSON texts of the items of a list. -/
def jsonItems (layout : JsonLayout) (depth : Nat) : List Value → List String
  | [] => []
  | v :: rest => jsonAt layout depth v :: jsonItems layout depth rest

/-- The JSON texts of the members of a mapping. -/
def jsonMembers (layout : JsonLayout) (depth : Nat) : List (Value × Value) → List String
  | [] => []
  | (key, v) :: rest =>
    (jsonString layout (jsonKey key) ++ (if layout.step.isSome then ": " else ":")
      ++ jsonAt layout depth v) :: jsonMembers layout depth rest

end

/-- The JSON text of a value. -/
def toJson (layout : JsonLayout) (v : Value) : String := jsonAt layout 0 v

end Curriculum.Value
