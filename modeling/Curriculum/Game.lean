import Curriculum.Exercise
import Curriculum.Sorting

/-!
# Games

A game is a set of worlds, a world a set of numbered levels. Both are kept in
the order in which they were first written; play order is a matter of the
numbers and of the paths between worlds.
-/

namespace Curriculum

/-- The texts that introduce a game, a world or a level. -/
structure Texts where
  title : Option String
  introduction : Option String
  conclusion : Option String
deriving DecidableEq, Repr

/-- The three texts. -/
inductive TextField where
  | title
  | introduction
  | conclusion
deriving DecidableEq, Repr

namespace Texts

/-- No texts. -/
def none : Texts := ⟨.none, .none, .none⟩

/-- Writes one of the texts. -/
def set (t : Texts) (field : TextField) (s : String) : Texts :=
  match field with
  | .title => { t with title := s }
  | .introduction => { t with introduction := s }
  | .conclusion => { t with conclusion := s }

end Texts

/-- A level. -/
structure Level where
  worldId : String
  index : Int
  texts : Texts
  inventory : Inventory
  statement : Option Statement
  hints : List Hint
  /-- The messages about this level. -/
  diagnostics : List Message
deriving DecidableEq

/-- A level on which nothing has been said. -/
def Level.fresh (worldId : String) (index : Int) : Level :=
  ⟨worldId, index, .none, .empty, none, [], []⟩

/-- A world. -/
structure World where
  id : String
  texts : Texts
  /-- The levels by number. -/
  levels : OrderedMap Int Level
deriving DecidableEq

namespace World

/-- A world without levels. -/
def fresh (id : String) : World := ⟨id, .none, .empty⟩

/-- The numbers of the levels, ascending. -/
def numbers (w : World) : List Int := sortBy (fun m n => m ≤ n) w.levels.keys

/-- The levels in the order of their numbers. -/
def orderedLevels (w : World) : List Level := w.numbers.filterMap w.levels.get?

/-- Applies a function to every level. -/
def mapLevels (w : World) (f : Level → Level) : World := { w with levels := w.levels.map f }

end World

/-- A game. -/
structure Game where
  name : String
  texts : Texts
  /-- The worlds by identifier. -/
  worlds : OrderedMap String World
deriving DecidableEq

namespace Game

/-- A game without worlds. -/
def fresh (name : String) : Game := ⟨name, .none, .empty⟩

/-- The level of a world. -/
def level? (g : Game) (world : String) (index : Int) : Option Level :=
  (g.worlds.get? world).bind (·.levels.get? index)

/-- Changes one world. -/
def modifyWorld (g : Game) (world : String) (f : World → World) : Game :=
  { g with worlds := g.worlds.modify world f }

/-- Changes one level. -/
def modifyLevel (g : Game) (world : String) (index : Int) (f : Level → Level) : Game :=
  g.modifyWorld world fun w => { w with levels := w.levels.modify index f }

/-- Applies a function to every level. -/
def mapLevels (g : Game) (f : Level → Level) : Game :=
  { g with worlds := g.worlds.map (·.mapLevels f) }

end Game
end Curriculum
