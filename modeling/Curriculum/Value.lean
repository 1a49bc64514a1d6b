import Curriculum.Decimal.Binary64

/-!
# Document values

What an authored document is made of: nothing, truth values, whole numbers of
any size, floating-point numbers, texts, lists and mappings. A mapping keeps
the order of its members, and its keys need not be texts. Whole and
floating-point numbers are told apart, because a reader may accept one and
refuse the other; as keys, however, `1`, `1.0` and `true` are the same.
-/

namespace Curriculum

/-- A value of a document. -/
inductive Value where
  | null
  | bool (b : Bool)
  | int (n : Int)
  | float (x : Binary64)
  | text (s : String)
  | list (items : List Value)
  | mapping (members : List (Value × Value))

instance : Inhabited Value := ⟨.null⟩

/-- The members of a mapping, in order. -/
abbrev Members := List (Value × Value)

namespace Value

/-- The word for the shape of a value. -/
def shape : Value → String
  | .null => "NoneType"
  | .bool _ => "bool"
  | .int _ => "int"
  | .float _ => "float"
  | .text _ => "str"
  | .list _ => "list"
  | .mapping _ => "dict"

/-- Whether a value counts as absent: nothing, false, zero, and everything empty. -/
def isAbsent : Value → Bool
  | .null => true
  | .bool b => !b
  | .int n => n == 0
  | .float x => x.isZero
  | .text s => s.isEmpty
  | .list items => items.isEmpty
  | .mapping members => members.isEmpty

/-- The whole number that a value is equal to, if it is a number at all. -/
def wholeNumber? : Value → Option Int
  | .bool b => some (if b then 1 else 0)
  | .int n => some n
  | .float x => x.toInt?
  | _ => none

/-- Whether two values are the same key: texts by their characters, numbers and truth values by
the number they stand for. What is no number is the same key as itself. -/
def sameKey : Value → Value → Bool
  | .null, .null => true
  | .float .nan, .float .nan => true
  | .text s, .text t => s == t
  | .float x, .float y => x.sameNumber y
  | a, b =>
    match a.wholeNumber?, b.wholeNumber? with
    | some m, some n => m == n
    | _, _ => false

end Value

namespace Members

/-- The value of the member with a textual key. -/
def get? (members : Members) (name : String) : Option Value :=
  match members with
  | [] => none
  | (.text key, v) :: rest => if key = name then some v else get? rest name
  | _ :: rest => get? rest name

/-- Writes one member: a known key keeps its place and takes the new value. -/
def write (key v : Value) : Members → Members
  | [] => [(key, v)]
  | (key', v') :: rest =>
    if key'.sameKey key then (key', v) :: rest else (key', v') :: write key v rest

/-- The members of a mapping written down one after the other. -/
def ofList (entries : List (Value × Value)) : Members :=
  entries.foldl (fun members e => write e.1 e.2 members) []

end Members
end Curriculum
