import Curriculum.WorldGraph.Basic

/-!
# Ancestors of a world

All worlds from which a path leads to a given world, without that world itself
even if it lies on a cycle. They are collected backwards, layer by layer, from
a shrinking list of worlds that have not been reached.
-/

namespace Curriculum.WorldGraph

/-- Whether an edge leads from a world into a layer. -/
def leadsInto (g : WorldGraph) (layer : List String) (world : String) : Bool :=
  (g.successors world).any (· ∈ layer)

/-- The worlds of `unreached` from which no edge leads into `layer`. -/
def beyond (g : WorldGraph) (unreached layer : List String) : List String :=
  unreached.filter fun world => !g.leadsInto layer world

/-- The worlds of `unreached` from which a path leads into `layer`. -/
def collect (g : WorldGraph) (unreached layer : List String) : List String :=
  if h : unreached.any (g.leadsInto layer) then
    have : (g.beyond unreached layer).length < unreached.length := length_filter_not_lt h
    let next := unreached.filter (g.leadsInto layer)
    next ++ collect g (g.beyond unreached layer) next
  else []
termination_by unreached.length

/-- All worlds that have to be played before a world. -/
def ancestors (g : WorldGraph) (world : String) : NameSet :=
  if world ∈ g.worlds then NameSet.ofList (g.collect (g.worlds.erase world) [world]) else .empty

end Curriculum.WorldGraph
