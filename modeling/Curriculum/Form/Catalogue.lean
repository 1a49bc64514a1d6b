import Curriculum.Form.Inventory
import Curriculum.Catalogue

/-!
# Calls on a catalogue, written as records

A name can be documented or mentioned by a record that has not been checked
yet. A name that needs no new item is settled by the catalogue alone; otherwise
the parts of the item are checked, and nothing changes if one of them is wrong.
-/

namespace Curriculum

open Schema

/-- Why a record is no call on a catalogue. -/
inductive CallError where
  | unknownKind (v : Value)
  /-- A list or mapping where a name is looked up. -/
  | unsearchable (name : Value)
  /-- A name that is no text, and so has no namespace to file a lemma under. -/
  | noNamespace (name : Value)
  | invalid (issues : List Issue)

/-- The wording of the error. -/
def CallError.message : CallError → String
  | unknownKind v => v.display ++ " is not a valid InventoryKind"
  | unsearchable v => "unhashable type: '" ++ v.shape ++ "'"
  | noNamespace v => "'" ++ v.shape ++ "' object has no attribute 'rpartition'"
  | invalid _ => "The item is not valid"

namespace Catalogue

/-- The kind that a value names. -/
def kindOf (v : Value) : Except CallError Kind :=
  match (Kind.read v).value? with
  | some kind => .ok kind
  | none => .error (.unknownKind v)

/-- The text by which a name is looked up. Another value that can be a key is the name of
nothing. -/
def searchText (name : Value) : Except CallError (Option String) :=
  match name with
  | .text s => .ok (some s)
  | .list _ | .mapping _ => .error (.unsearchable name)
  | _ => .ok none

/-- The namespace of a name. -/
def namespaceIn (name : Value) : Except CallError String :=
  match name with
  | .text s => .ok (namespaceOf s)
  | _ => .error (.noNamespace name)

/-- The item of a name. -/
def lookupName (c : Catalogue) (kind : Kind) (name : Value) : Except CallError (Option Item) := do
  return (← searchText name).bind (c.lookup kind)

/-- A member of a record, null if it is not there. -/
def part (name : String) (ms : Members) : Value := (ms.get? name).getD .null

/-- The name to show: none if the value counts as absent, and then the item's own name has to be
fit to be shown. -/
def shownName (name : Value) : Reader (Option String) := fun v =>
  if v.isAbsent then (Reader.text name).map fun _ => none else (Reader.text v).map some

/-- The documentation in a record. -/
def readDoc (kind : Kind) (ms : Members) : Checked Doc :=
  Doc.mk kind
    <$> (Reader.nonEmptyText (part "name" ms)).within "name"
    <*> (shownName (part "name" ms) (part "display_name" ms)).within "display_name"
    <*> optional "category" Reader.text ms
    <*> defaulted "content" Reader.text "" ms

/-- Documents the name in a record. -/
def registerRecord (c : Catalogue) (ms : Members) :
    Except CallError (Catalogue × Option Remark) := do
  let kind ← kindOf (part "kind" ms)
  match (← searchText (part "name" ms)).filter (c.isDocumented kind ·) with
  | some name => return (c, some (.alreadyDocumented kind name))
  | none =>
    if kind = .lemmas ∧ part "category" ms matches .null then
      let _ ← namespaceIn (part "name" ms)
    match readDoc kind ms with
    | .accepted doc _ => return c.register doc
    | .rejected issues => throw (.invalid issues)

/-- The description in a record, under the name that it has in an item. -/
def description (ms : Members) : Checked (Option String) :=
  ((Reader.nullable Reader.text) (part "template" ms)).within "content"

/-- Mentions the name in a record. -/
def mentionRecord (c : Catalogue) (ms : Members) :
    Except CallError (Catalogue × Option Remark) := do
  let kind ← kindOf (part "kind" ms)
  if (← searchText (part "name" ms)).any (c.contains kind ·) then return (c, none)
  else
    if kind = .lemmas then
      let _ ← namespaceIn (part "name" ms)
    let read : Checked (NonEmptyText × Option String) :=
      (fun name _ description => (name, description))
        <$> (Reader.nonEmptyText (part "name" ms)).within "name"
        <*> (Reader.text (part "name" ms)).within "display_name"
        <*> description ms
    match read with
    | .accepted (name, description) _ => return c.mention kind name description
    | .rejected issues => throw (.invalid issues)

end Catalogue
end Curriculum
