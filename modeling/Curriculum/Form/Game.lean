import Curriculum.Form.Exercise
import Curriculum.Form.Inventory
import Curriculum.Game

/-!
# Records of games

How levels, worlds and games are read from and written as values. The levels of
a world are a mapping from whole numbers.
-/

namespace Curriculum

open Schema Form

/-- Each of the three texts may be left out. -/
def Texts.readFields (ms : Members) : Checked Texts :=
  Texts.mk
    <$> optional "title" Reader.text ms
    <*> optional "introduction" Reader.text ms
    <*> optional "conclusion" Reader.text ms

/-- The three texts as fields of a record. -/
def Texts.fields (t : Texts) : List (String × Value) := [
  ("title", ofText? t.title), ("introduction", ofText? t.introduction),
  ("conclusion", ofText? t.conclusion)]

/-- A level has a world and a number from one on. -/
def Level.read : Reader Level := Reader.record fun ms =>
  Level.mk
    <$> required "world_id" Reader.text ms
    <*> required "index" Reader.positive ms
    <*> Texts.readFields ms
    <*> defaulted "inventory" Inventory.read .empty ms
    <*> optional "statement" Statement.read ms
    <*> defaulted "hints" (Reader.list Hint.read) [] ms
    <*> defaulted "diagnostics" (Reader.list Message.read) [] ms

/-- The record of a level. -/
def Level.write (l : Level) : Value := record (
  [("world_id", .text l.worldId), ("index", .int l.index)] ++ l.texts.fields ++
  [("inventory", l.inventory.write), ("statement", ofOption Statement.write l.statement),
    ("hints", ofList Hint.write l.hints), ("diagnostics", ofList Message.write l.diagnostics)])

/-- A world has an identifier; its levels are a mapping from whole numbers. -/
def World.read : Reader World := Reader.record fun ms =>
  World.mk
    <$> required "id" Reader.text ms
    <*> Texts.readFields ms
    <*> defaulted "levels" (Reader.mapping Reader.int Level.read) .empty ms

/-- The record of a world, with its levels in the order in which they are kept. -/
def World.write (w : World) : Value := record (
  ("id", .text w.id) :: w.texts.fields ++
  [("levels", .mapping (w.levels.entries.map fun (index, level) => (.int index, level.write)))])

/-- A game has a name; its worlds are a mapping from identifiers. -/
def Game.read : Reader Game := Reader.record fun ms =>
  Game.mk
    <$> required "name" Reader.text ms
    <*> Texts.readFields ms
    <*> defaulted "worlds" (Reader.mapping Reader.text World.read) .empty ms

/-- The record of a game, with its worlds in the order in which they are kept. -/
def Game.write (g : Game) : Value := record (
  ("name", .text g.name) :: g.texts.fields ++
  [("worlds", .mapping (g.worlds.entries.map fun (id, world) => (.text id, world.write)))])

end Curriculum
