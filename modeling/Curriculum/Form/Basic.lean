import Curriculum.Schema.Reader

/-!
# Written records

How the parts of a record are written as values: a record is a mapping from the
names of its fields, an absent part is null, a set of names is an ascending
list, and an ordered mapping keeps its order.
-/

namespace Curriculum.Form

/-- A record with the given fields. -/
def record (fields : List (String × Value)) : Value :=
  .mapping (fields.map fun (name, v) => (.text name, v))

/-- A part that may be absent. -/
def ofOption (write : α → Value) : Option α → Value
  | some a => write a
  | none => .null

/-- A text that may be absent. -/
def ofText? : Option String → Value := ofOption .text

/-- A list. -/
def ofList (write : α → Value) (l : List α) : Value := .list (l.map write)

/-- A set of names. -/
def ofNames (s : NameSet) : Value := ofList .text s.names

/-- A mapping from texts to texts. -/
def ofTexts (m : OrderedMap String String) : Value :=
  .mapping (m.entries.map fun (key, s) => (.text key, .text s))

end Curriculum.Form
