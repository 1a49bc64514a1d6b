import Curriculum.Message

/-!
# Names of statements

Every statement is declared under a name: the one its author gave it, if that
is not taken, and otherwise a name made of the game, the world and the number
of the level.
-/

namespace Curriculum

/-- The name of a statement by its position. -/
def defaultTheoremName (game world : String) (index : Int) : String :=
  game ++ "." ++ world ++ ".level" ++ toString index

/-- What becomes of the name that an author gave. -/
structure NameResolution where
  /-- The name that the statement is declared under. -/
  theoremName : String
  /-- The name under which the statement appears in the inventory, if it has one. -/
  docName : Option NonEmptyText
  /-- The type of an earlier declaration that takes the author's name. -/
  takenBy : Option String
deriving DecidableEq

/-- Settles the name of a statement, given the types of all names declared so far. An empty name is
none. -/
def resolveName (lookup : String → Option String) (authorName : Option String)
    (game world : String) (index : Int) : NameResolution :=
  let positional := defaultTheoremName game world index
  match authorName with
  | none => ⟨positional, none, none⟩
  | some name =>
    if h : name ≠ "" then
      match lookup name with
      | none => ⟨name, some ⟨name, h⟩, none⟩
      | some type => ⟨positional, some ⟨name, h⟩, some type⟩
    else ⟨positional, none, none⟩

/-- A statement whose author gave it a name appears under that name in the inventory. -/
theorem docName_resolveName (lookup : String → Option String) (name : NonEmptyText)
    (game world : String) (index : Int) :
    (resolveName lookup (some name.val) game world index).docName = some name := by
  unfold resolveName
  simp only [name.property, ne_eq, not_false_eq_true, dif_pos]
  cases lookup name.val <;> rfl

/-- What the author is told if the name is taken. -/
def NameResolution.remark (r : NameResolution) : Option Remark :=
  match r.docName, r.takenBy with
  | some name, some type => some (.nameTaken name.val type r.theoremName)
  | _, _ => none

end Curriculum
