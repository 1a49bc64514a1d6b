import Curriculum.Form.Basic
import Curriculum.Inventory

/-!
# Records of the inventory

How items, computed items and the declarations of a level are read from and
written as values.
-/

namespace Curriculum

open Schema Form

/-- Kinds are written as their words. -/
def Kind.read : Reader Kind := Reader.oneOf Kind.ofLabel?

/-- The word of a kind. -/
def Kind.write (k : Kind) : Value := .text k.label

/-- An item has a kind, a name that is not empty, and a name to show. -/
def Item.read : Reader Item := Reader.record fun ms =>
  (fun kind name => Item.mk kind name.val)
    <$> required "kind" Kind.read ms
    <*> required "name" Reader.nonEmptyText ms
    <*> required "display_name" Reader.text ms
    <*> defaulted "category" Reader.text "" ms
    <*> defaulted "content" Reader.text "" ms
    <*> optional "statement" Reader.text ms
    <*> defaulted "placeholder" Reader.bool false ms

/-- The record of an item. -/
def Item.write (i : Item) : Value := record [
  ("kind", i.kind.write), ("name", .text i.name), ("display_name", .text i.displayName),
  ("category", .text i.category), ("content", .text i.content),
  ("statement", ofText? i.statement), ("placeholder", .bool i.placeholder)]

/-- A computed item has a name, a name to show and a category; it is locked unless it says
otherwise. -/
def ComputedItem.read : Reader ComputedItem := Reader.record fun ms =>
  ComputedItem.mk
    <$> required "name" Reader.text ms
    <*> required "display_name" Reader.text ms
    <*> required "category" Reader.text ms
    <*> defaulted "locked" Reader.bool true ms
    <*> defaulted "disabled" Reader.bool false ms
    <*> defaulted "new" Reader.bool false ms

/-- The record of a computed item. -/
def ComputedItem.write (i : ComputedItem) : Value := record [
  ("name", .text i.name), ("display_name", .text i.displayName), ("category", .text i.category),
  ("locked", .bool i.locked), ("disabled", .bool i.disabled), ("new", .bool i.new)]

/-- What is not declared is empty. -/
def Info.read : Reader Info := Reader.record fun ms =>
  Info.mk
    <$> defaulted "new" Reader.names .empty ms
    <*> defaulted "disabled" Reader.names .empty ms
    <*> defaulted "only" Reader.names .empty ms
    <*> defaulted "computed" (Reader.list ComputedItem.read) [] ms

/-- The record of the declarations for a kind. -/
def Info.write (i : Info) : Value := record [
  ("new", ofNames i.new), ("disabled", ofNames i.disabled), ("only", ofNames i.only),
  ("computed", ofList ComputedItem.write i.computed)]

/-- The declarations of a level are a mapping from kinds, which may lack some of them. -/
def Inventory.read : Reader Inventory := fun v =>
  (Reader.mapping Kind.read Info.read v).map fun m =>
    ⟨m.get? .tactics, m.get? .lemmas, m.get? .definitions⟩

/-- The record of the declarations of a level, with a member for every kind that is there. -/
def Inventory.write (i : Inventory) : Value :=
  record (Kind.all.filterMap fun k => (i.get? k).map fun info => (k.label, info.write))

end Curriculum
