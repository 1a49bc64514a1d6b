import Curriculum.Message
import Curriculum.OrderedMap

/-!
# The catalogue

The documented vocabulary of a game, one item for each kind and name, in the
order in which the names were first mentioned. The first documentation of a
name stands. A name may be mentioned before it is documented, or without ever
being documented: it gets a placeholder, which a later documentation replaces
where it is.
-/

namespace Curriculum

/-- The category of an item for which none is given: a lemma's namespace. -/
def defaultCategory (kind : Kind) (name : String) : String :=
  match kind with
  | .lemmas => namespaceOf name
  | _ => ""

/-- The item that a documentation makes. -/
def Doc.item (doc : Doc) : Item where
  kind := doc.kind
  name := doc.name.val
  displayName := textOr doc.displayName doc.name.val
  category := doc.category.getD (defaultCategory doc.kind doc.name.val)
  content := doc.content
  statement := none
  placeholder := false

/-- The documentation of a name by nothing but a description. -/
def Doc.ofDescription (kind : Kind) (name : NonEmptyText) (description : String) : Doc :=
  ⟨kind, name, none, none, description⟩

/-- The item that stands in for a name's documentation. -/
def Item.placeholderFor (kind : Kind) (name : NonEmptyText) : Item :=
  { (Doc.ofDescription kind name "").item with placeholder := true }

/-- The items of a game by kind and name. -/
structure Catalogue where
  entries : OrderedMap (Kind × String) Item
deriving DecidableEq

namespace Catalogue

/-- The catalogue without items. -/
def empty : Catalogue := ⟨.empty⟩

/-- The item of a name. -/
def lookup (c : Catalogue) (kind : Kind) (name : String) : Option Item :=
  c.entries.get? (kind, name)

/-- Whether a name has an item, if only a placeholder. -/
def contains (c : Catalogue) (kind : Kind) (name : String) : Bool :=
  (c.lookup kind name).isSome

/-- How many items there are. -/
def size (c : Catalogue) : Nat := c.entries.size

/-- All items, in the order of first mention. -/
def items (c : Catalogue) : List Item := c.entries.values

/-- The items of one kind, in the order of first mention. -/
def itemsOf (c : Catalogue) (kind : Kind) : List Item :=
  (c.entries.entries.filter (·.1.1 = kind)).map Prod.snd

/-- Whether a name has real documentation. -/
def isDocumented (c : Catalogue) (kind : Kind) (name : String) : Bool :=
  match c.lookup kind name with
  | some item => !item.placeholder
  | none => false

/-- Documents a name. A name that is documented already keeps its item, and the author is told. -/
def register (c : Catalogue) (doc : Doc) : Catalogue × Option Remark :=
  if c.isDocumented doc.kind doc.name.val then
    (c, some (.alreadyDocumented doc.kind doc.name.val))
  else (⟨c.entries.insert (doc.kind, doc.name.val) doc.item⟩, none)

/-- Makes sure that a name has an item. A new name is documented by the description if there is
one, and gets a placeholder if not; the author is told either way. -/
def mention (c : Catalogue) (kind : Kind) (name : NonEmptyText) (description : Option String) :
    Catalogue × Option Remark :=
  if c.contains kind name.val then (c, none)
  else match description with
    | some text =>
      (⟨c.entries.insert (kind, name.val) (Doc.ofDescription kind name text).item⟩,
        some (.documentedByDescription kind name.val))
    | none =>
      (⟨c.entries.insert (kind, name.val) (.placeholderFor kind name)⟩,
        some (.undocumented kind name.val))

/-- Changes every item. -/
def mapItems (c : Catalogue) (f : Item → Item) : Catalogue := ⟨c.entries.map f⟩

end Catalogue
end Curriculum
