import Curriculum.NameSet
import Curriculum.Text.Identifier

/-!
# Inventory

The vocabulary that a learner can be given: tactics, lemmas and definitions. An
item documents one name of one kind. A level declares, for each kind, which
names it introduces, which it takes away and to which it confines the learner;
what that makes of every registered item at that level is computed later and
kept beside the declarations.
-/

namespace Curriculum

/-- The kinds of vocabulary. -/
inductive Kind where
  | tactics
  | lemmas
  | definitions
deriving DecidableEq, Repr

namespace Kind

/-- All kinds, in the order in which they are worked through. -/
def all : List Kind := [tactics, lemmas, definitions]

/-- The word for one item of a kind. -/
def label : Kind → String
  | tactics => "tactic"
  | lemmas => "lemma"
  | definitions => "definition"

/-- The word for one item of a kind, at the start of a sentence. -/
def title : Kind → String
  | tactics => "Tactic"
  | lemmas => "Lemma"
  | definitions => "Definition"

/-- The kind that a word names. -/
def ofLabel? (s : String) : Option Kind := all.find? (·.label == s)

theorem mem_all (k : Kind) : k ∈ all := by cases k <;> simp [all]

theorem ofLabel?_label (k : Kind) : ofLabel? k.label = some k := by cases k <;> rfl

end Kind

/-! ## Registered items -/

/-- The category of lemmas whose name has no namespace. -/
def generalCategory : String := "General"

/-- What stands before the last point of a name; empty if there is no point. -/
def beforeLastPoint (cs : List Char) : List Char :=
  ((cs.reverse.dropWhile (· != '.')).drop 1).reverse

/-- The namespace of a dotted name. -/
def namespaceOf (name : String) : String :=
  let space := beforeLastPoint name.toList
  if space.isEmpty then generalCategory else String.ofList space

example : beforeLastPoint "Nat.add.comm".toList = "Nat.add".toList := by decide
example : beforeLastPoint "foo".toList = [] := by decide

/-- A documented name, or the placeholder of a name that was used without being documented. -/
structure Item where
  kind : Kind
  name : String
  displayName : String
  category : String
  content : String
  /-- The declaration of a lemma, known once everything has been checked. -/
  statement : Option String
  /-- Whether the item only stands in for missing documentation. -/
  placeholder : Bool
deriving DecidableEq, Repr

/-- What documents an item: the part of it that an author writes. -/
structure Doc where
  kind : Kind
  name : NonEmptyText
  displayName : Option String
  category : Option String
  content : String
deriving DecidableEq, Repr

/-! ## Declarations of a level -/

/-- An item as it appears at one level. -/
structure ComputedItem where
  name : String
  displayName : String
  category : String
  locked : Bool
  disabled : Bool
  new : Bool
deriving DecidableEq, Repr

/-- What a level declares for one kind, and what was computed from it. -/
structure Info where
  new : NameSet
  disabled : NameSet
  only : NameSet
  computed : List ComputedItem
deriving DecidableEq

/-- Nothing declared and nothing computed. -/
def Info.empty : Info := ⟨.empty, .empty, .empty, []⟩

/-- Whether a name is taken away from the learner: by a confinement that leaves it out, or, if
there is no confinement, by being listed. -/
def Info.isDisabled (info : Info) (name : String) : Bool :=
  if info.only.isEmpty then name ∈ info.disabled else name ∉ info.only

/-- The three ways to list names at a level. -/
inductive Listing where
  | new
  | disabled
  | only
deriving DecidableEq, Repr

/-- Replaces one of the listings. -/
def Info.setListing (info : Info) (listing : Listing) (names : NameSet) : Info :=
  match listing with
  | .new => { info with new := names }
  | .disabled => { info with disabled := names }
  | .only => { info with only := names }

/-- The declarations of a level. A level that was not made by applying directives may lack a
kind. -/
structure Inventory where
  tactics : Option Info
  lemmas : Option Info
  definitions : Option Info
deriving DecidableEq

namespace Inventory

/-- Every kind, with nothing declared. -/
def empty : Inventory := ⟨some .empty, some .empty, some .empty⟩

/-- The declarations for a kind. -/
def get? (inventory : Inventory) : Kind → Option Info
  | .tactics => inventory.tactics
  | .lemmas => inventory.lemmas
  | .definitions => inventory.definitions

/-- Writes the declarations for a kind. -/
def set (inventory : Inventory) (kind : Kind) (info : Info) : Inventory :=
  match kind with
  | .tactics => { inventory with tactics := some info }
  | .lemmas => { inventory with lemmas := some info }
  | .definitions => { inventory with definitions := some info }

/-- Changes the declarations for a kind, if there are any. -/
def modify (inventory : Inventory) (kind : Kind) (f : Info → Info) : Inventory :=
  match inventory.get? kind with
  | some info => inventory.set kind (f info)
  | none => inventory

theorem get?_set (inventory : Inventory) (kind kind' : Kind) (info : Info) :
    (inventory.set kind info).get? kind'
      = if kind' = kind then some info else inventory.get? kind' := by
  cases kind <;> cases kind' <;> rfl

end Inventory
end Curriculum
