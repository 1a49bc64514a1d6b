import Curriculum.WorldGraph.Cycle
import Curriculum.Sorting

/-!
# Play order

The worlds in an order in which every path leads forward. At each point the
world that comes next is the one with the least name among those that no
remaining world leads to. If there is none although worlds remain, they wait
for each other and there is no order.
-/

namespace Curriculum.WorldGraph

/-- The least name of a list. -/
def least : List String → Option String
  | [] => none
  | name :: rest =>
    match least rest with
    | none => some name
    | some other => some (if other < name then other else name)

theorem mem_of_least {l : List String} {name : String} (h : least l = some name) : name ∈ l := by
  induction l generalizing name with
  | nil => exact absurd h (by simp [least])
  | cons first rest ih =>
    simp only [least] at h
    split at h
    · simp_all
    · next other heq =>
      split at h
      · exact List.mem_cons_of_mem _ (ih (heq.trans h))
      · simp_all

/-- The world that comes next: the least one that no remaining world leads to. -/
def nextWorld (g : WorldGraph) (remaining : List String) : Option String :=
  least (remaining.filter (g.isReady remaining))

theorem length_erase_nextWorld {g : WorldGraph} {remaining : List String} {world : String}
    (h : g.nextWorld remaining = some world) :
    (remaining.erase world).length < remaining.length := by
  have hmem : world ∈ remaining := (List.mem_filter.1 (mem_of_least h)).1
  have := List.length_pos_of_mem hmem
  rw [List.length_erase_of_mem hmem]
  omega

/-- An order of the remaining worlds. -/
def orderOf (g : WorldGraph) (remaining : List String) : Option (List String) :=
  match h : g.nextWorld remaining with
  | some world =>
    have := length_erase_nextWorld h
    (orderOf g (remaining.erase world)).map (world :: ·)
  | none => if remaining.isEmpty then some [] else none
termination_by remaining.length

/-- The play order, if there is one. -/
def topologicalOrder (g : WorldGraph) : Option (List String) := g.orderOf g.worlds

/-- Edges by their sources, edges of one source by their targets. -/
def edgeLe (a b : String × String) : Bool := a.1 < b.1 || (a.1 == b.1 && a.2 ≤ b.2)

/-- The edges, ascending. -/
def sortedEdges (g : WorldGraph) : List (String × String) := sortBy edgeLe g.edges

end Curriculum.WorldGraph
