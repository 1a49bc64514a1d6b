import Mathlib.Data.Prod.Lex
import Mathlib.Data.String.Basic
import Curriculum.Bundle
import Curriculum.Proofs.Reordering
import Curriculum.Proofs.WorldGraph.Cycles

/-!
# The same graph in another order

Worlds and edges are kept in the order in which they were added. `Reordered`
graphs have the same worlds and the same edges, and nothing that compiling asks
of a graph tells them apart: there is a cycle in both or in neither, every world
has the same ancestors, and the maps of the two graphs are equal (`map?_eq`).
The play orders are equal because at each point the world that comes next is
found by its name, `least_eq_of_perm`.
-/

namespace Curriculum.WorldGraph

/-- The same worlds and the same edges, perhaps in another order. -/
structure Reordered (g g' : WorldGraph) : Prop where
  mem_worlds : ∀ world, world ∈ g.worlds ↔ world ∈ g'.worlds
  mem_edges : ∀ e, e ∈ g.edges ↔ e ∈ g'.edges

theorem reordered_iff {g g' : WorldGraph} :
    g.Reordered g' ↔ g.worlds.Perm g'.worlds ∧ g.edges.Perm g'.edges := by
  rw [List.perm_ext_iff_of_nodup g.worlds_nodup g'.worlds_nodup,
    List.perm_ext_iff_of_nodup g.edges_nodup g'.edges_nodup]
  exact ⟨fun h => ⟨h.mem_worlds, h.mem_edges⟩, fun h => ⟨h.1, h.2⟩⟩

instance (g g' : WorldGraph) : Decidable (g.Reordered g') := decidable_of_iff _ reordered_iff.symm

/-! ## The least name -/

theorem le_of_least {l : List String} {name : String} (h : least l = some name) :
    ∀ other ∈ l, name ≤ other := by
  induction l generalizing name with
  | nil => exact absurd h (by simp [least])
  | cons first rest ih =>
    simp only [least] at h
    split at h
    · next hnone =>
      obtain rfl := Option.some.inj h
      simp [least_eq_none_iff.1 hnone]
    · next second hsecond =>
      have hrest : ∀ other ∈ rest, second ≤ other := ih hsecond
      obtain rfl := Option.some.inj h
      refine List.forall_mem_cons.2 ?_
      split
      · next hlt => exact ⟨hlt.le, hrest⟩
      · next hlt => exact ⟨le_rfl, fun other h => (not_lt.1 hlt).trans (hrest other h)⟩

/-- The least name of a list is the one that comes before all others. -/
theorem least_eq_some_iff {l : List String} {name : String} :
    least l = some name ↔ name ∈ l ∧ ∀ other ∈ l, name ≤ other := by
  constructor
  · exact fun h => ⟨mem_of_least h, le_of_least h⟩
  · intro hname
    obtain ⟨hmem, hname⟩ := hname
    cases h : least l with
    | none => exact absurd (least_eq_none_iff.1 h ▸ hmem) List.not_mem_nil
    | some other =>
      exact congrArg some ((le_of_least h name hmem).antisymm (hname other (mem_of_least h)))

theorem least_eq_of_perm {l l' : List String} (h : l.Perm l') : least l = least l' :=
  Option.ext fun name => by simp only [least_eq_some_iff, h.mem_iff]

/-- Edges are compared like pairs of names. -/
theorem edgeLe_iff (a b : String × String) : edgeLe a b = true ↔ toLex a ≤ toLex b := by
  simp only [edgeLe, Prod.Lex.toLex_le_toLex, Bool.or_eq_true, Bool.and_eq_true,
    decide_eq_true_eq, beq_iff_eq]

namespace Reordered

variable {g g' : WorldGraph} (h : g.Reordered g')
include h

/-! ## Cycles and ancestors -/

theorem edge_eq : g.Edge = g'.Edge := funext₂ fun u v => propext (h.mem_edges (u, v))

/-- There is a cycle in both graphs or in neither. -/
theorem findCycle_eq_nil_iff : g.findCycle = [] ↔ g'.findCycle = [] := by
  rw [WorldGraph.findCycle_eq_nil_iff, WorldGraph.findCycle_eq_nil_iff, Path, Path, h.edge_eq]

/-- A world has the same ancestors in both graphs. -/
theorem ancestors_eq (world : String) : g.ancestors world = g'.ancestors world := by
  refine NameSet.ext_mem fun u => ?_
  rw [mem_ancestors_iff, mem_ancestors_iff, Path, Path, h.edge_eq]

/-! ## Play order -/

theorem isReady_eq {remaining remaining' : List String} (hperm : remaining.Perm remaining') :
    g.isReady remaining = g'.isReady remaining' := by
  funext world
  rw [Bool.eq_iff_iff]
  simp only [isReady, List.all_eq_true, mem_directPredecessors, h.mem_edges, hperm.mem_iff]

theorem nextWorld_eq {remaining remaining' : List String} (hperm : remaining.Perm remaining') :
    g.nextWorld remaining = g'.nextWorld remaining' := by
  rw [nextWorld, nextWorld, h.isReady_eq hperm]
  exact least_eq_of_perm (hperm.filter _)

/-- The same worlds are put in the same order. -/
theorem orderOf_eq {remaining remaining' : List String} (hperm : remaining.Perm remaining') :
    g.orderOf remaining = g'.orderOf remaining' := by
  have hnext := h.nextWorld_eq hperm
  induction remaining using orderOf.induct g generalizing remaining' with
  | case1 remaining world hworld _ ih =>
    have hperm' := hperm.erase world
    rw [orderOf_of_nextWorld hworld, orderOf_of_nextWorld (hnext.symm.trans hworld),
      ih hperm' (h.nextWorld_eq hperm')]
  | case2 remaining hnone | case3 remaining hnone =>
    rw [orderOf_of_nextWorld_eq_none hnone, orderOf_of_nextWorld_eq_none (hnext.symm.trans hnone),
      hperm.isEmpty_eq]

theorem topologicalOrder_eq : g.topologicalOrder = g'.topologicalOrder := h.orderOf_eq (reordered_iff.1 h).1

/-! ## The map -/

theorem sortedEdges_eq : g.sortedEdges = g'.sortedEdges := by
  exact sortBy_eq_of_perm edgeLe_iff (reordered_iff.1 h).2 (g.edges_nodup.map toLex.injective)

theorem map?_eq : g.map? = g'.map? := by
  rw [map?, map?, h.topologicalOrder_eq, h.sortedEdges_eq]

end Reordered
end Curriculum.WorldGraph
