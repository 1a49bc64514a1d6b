import Curriculum.Form.Game
import Curriculum.Value.Depth
import Curriculum.WorldGraph.Order

/-!
# Bundles

What a compiled game is handed on as: the worlds in play order, the graph they
form, the inventory, and a few totals. The totals are members of a mapping that
may hold more than them, but nothing that nests too deep to be handed on.
-/

namespace Curriculum

/-- A graph of worlds as it is handed on. -/
structure WorldMap where
  /-- The worlds in play order. -/
  nodes : List String
  /-- The edges, ascending. -/
  edges : List (String × String)
deriving DecidableEq

/-- The map of a graph whose worlds can be put in order. -/
def WorldGraph.map? (g : WorldGraph) : Option WorldMap :=
  g.topologicalOrder.map fun order => ⟨order, g.sortedEdges⟩

/-- A compiled game. -/
structure Bundle where
  name : String
  texts : Texts
  worldMap : WorldMap
  inventory : List Item
  /-- The worlds in play order. -/
  worlds : List World
  /-- Totals and whatever else is to be known about the bundle. -/
  facts : Members

/-- A bundle with the time at which it was compiled. -/
def Bundle.stamped (b : Bundle) (time : String) : Bundle :=
  { b with facts := (.text "compiled_at", .text time) :: b.facts }

/-- How much there is in a bundle. -/
structure Totals where
  worlds : Nat
  levels : Nat
  items : Nat
  hints : Nat
deriving DecidableEq, Repr

namespace Totals

/-- The totals of some worlds and an inventory. -/
def of (worlds : List World) (items : List Item) : Totals :=
  let levels := worlds.flatMap (·.levels.values)
  { worlds := worlds.length
    levels := levels.length
    items := items.length
    hints := levels.foldl (fun n l => n + l.hints.length) 0 }

/-- The totals as members of a record. -/
def members (t : Totals) : Members := [
  (.text "total_worlds", .int t.worlds), (.text "total_levels", .int t.levels),
  (.text "total_items", .int t.items), (.text "total_hints", .int t.hints)]

end Totals

open Schema Form

/-- An edge is a record of its two ends. -/
def readEdge : Reader (String × String) := Reader.record fun ms =>
  Prod.mk <$> required "from_id" Reader.text ms <*> required "to_id" Reader.text ms

/-- The record of an edge. -/
def writeEdge (e : String × String) : Value :=
  record [("from_id", .text e.1), ("to_id", .text e.2)]

/-- A map has its worlds; without edges no world waits for another. -/
def WorldMap.read : Reader WorldMap := Reader.record fun ms =>
  WorldMap.mk
    <$> required "nodes" (Reader.list Reader.text) ms
    <*> defaulted "edges" (Reader.list readEdge) [] ms

/-- The record of a map. -/
def WorldMap.write (m : WorldMap) : Value :=
  record [("nodes", ofList .text m.nodes), ("edges", ofList writeEdge m.edges)]

/-- A bundle has a name, a map, an inventory, worlds and facts; only its texts may be left out. -/
def Bundle.read : Reader Bundle := Reader.record fun ms =>
  Bundle.mk
    <$> required "name" Reader.text ms
    <*> Texts.readFields ms
    <*> required "world_graph" WorldMap.read ms
    <*> required "inventory" (Reader.list Item.read) ms
    <*> required "worlds" (Reader.list World.read) ms
    <*> required "meta" Reader.anyMapping ms

/-- The record of a bundle. -/
def Bundle.write (b : Bundle) : Value := record (
  ("name", .text b.name) :: b.texts.fields ++
  [("world_graph", b.worldMap.write), ("inventory", ofList Item.write b.inventory),
    ("worlds", ofList World.write b.worlds), ("meta", .mapping b.facts)])

/-- How deep a fact of a bundle may nest. -/
def Bundle.depthLimit : Nat := 255

/-- Why a bundle cannot be handed on. -/
inductive Bundle.WriteError where
  /-- One of its facts nests too deep. -/
  | tooDeep
deriving DecidableEq, Repr

/-- The wording of the error. -/
def Bundle.WriteError.message : Bundle.WriteError → String
  | tooDeep => "Maximum serialization depth exceeded"

/-- The record of a bundle, unless one of its facts nests too deep. -/
def Bundle.tryWrite (b : Bundle) : Except Bundle.WriteError Value :=
  if Value.membersDepth b.facts ≤ Bundle.depthLimit then .ok b.write else .error .tooDeep

end Curriculum
