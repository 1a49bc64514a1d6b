import Curriculum.Proofs.WorldGraph.Reordered

/-!
# The play order is the least one

A graph without cycles can have many play orders. The one that is computed takes
the least name among the worlds that wait for nothing, one world at a time; this
choice is never regretted. Any other play order of the worlds that remain starts
with a world that waits for nothing as well (`nextWorld_le`). If it is not the
same world, it is a greater name, and the two orders are compared at this place;
if it is the same, the comparison goes on with the worlds that then remain
(`orderOf_le`).

Main statement: `play_order_least`. The order also depends on nothing but the
worlds and the edges, and the map lists every edge once, in ascending order.
-/

namespace Curriculum.WorldGraph

variable {g : WorldGraph}

/-! ## Play orders by positions -/

/-- A play order has every world once, and every edge leads from an earlier to a later world. -/
theorem isPlayOrder_iff {order : List String} :
    g.IsPlayOrder order
      ↔ order.Perm g.worlds ∧ ∀ u v, g.Edge u v → order.idxOf u < order.idxOf v := by
  constructor
  · intro h
    exact ⟨h.perm, fun u v he => h.idxOf_lt_of_path (.single he)⟩
  · intro h
    obtain ⟨hperm, hlt⟩ := h
    have hnodup : order.Nodup := hperm.nodup_iff.2 g.worlds_nodup
    refine ⟨hperm, fun u _ he => Nat.lt_irrefl _ (hlt u u he), ?_⟩
    refine List.pairwise_iff_getElem.2 fun i j hi hj hij he => ?_
    have hback := hlt _ _ he
    rw [hnodup.idxOf_getElem, hnodup.idxOf_getElem] at hback
    omega

/-! ## The choice of the next world -/

/-- The world that comes next is the least of those that no remaining world leads to. -/
theorem nextWorld_le {remaining : List String} {world other : String}
    (h : g.nextWorld remaining = some world) (hmem : other ∈ remaining)
    (hready : ∀ u ∈ remaining, ¬ g.Edge u other) : world ≤ other := by
  refine le_of_least h other (List.mem_filter.2 ⟨hmem, ?_⟩)
  refine List.all_eq_true.2 fun u hu => decide_eq_true fun hrem => ?_
  exact hready u hrem (mem_directPredecessors.1 hu)

/-- **Least names first** is the least of all orders in which the remaining worlds can be played. -/
theorem orderOf_le {remaining order other : List String} (h : g.orderOf remaining = some order)
    (hperm : other.Perm remaining) (hloop : ∀ u ∈ other, ¬ g.Edge u u)
    (hforward : other.Pairwise fun u v => ¬ g.Edge v u) :
    order = other ∨ List.Lex (· < ·) order other := by
  induction remaining using orderOf.induct g generalizing order other with
  | case1 remaining world hnext _ ih =>
    rw [orderOf_of_nextWorld hnext] at h
    obtain ⟨order, horder, rfl⟩ := Option.map_eq_some_iff.1 h
    have hworld : world ∈ remaining := (nextWorld_spec hnext).1
    cases other with
    | nil => exact absurd (hperm.mem_iff.2 hworld) List.not_mem_nil
    | cons first rest =>
      obtain ⟨hfirst, hrest⟩ := List.pairwise_cons.1 hforward
      have hready : ∀ u ∈ remaining, ¬ g.Edge u first := by
        intro u hu
        rcases List.mem_cons.1 (hperm.mem_iff.2 hu) with rfl | hu
        · exact hloop u List.mem_cons_self
        · exact hfirst u hu
      have hle : world ≤ first :=
        nextWorld_le hnext (hperm.mem_iff.1 List.mem_cons_self) hready
      rcases hle.lt_or_eq with hlt | rfl
      · exact .inr (.rel hlt)
      · -- The same world comes first in both: compare the orders of the others.
        have hperm' : rest.Perm (remaining.erase world) :=
          (List.cons_perm_iff_perm_erase.1 hperm).2
        have hloop' : ∀ u ∈ rest, ¬ g.Edge u u := fun u hu =>
          hloop u (List.mem_cons_of_mem _ hu)
        rcases ih horder hperm' hloop' hrest with rfl | hlex
        · exact .inl rfl
        · exact .inr (.cons hlex)
  | case2 remaining hnone hempty =>
    rw [orderOf_of_nextWorld_eq_none hnone, if_pos hempty] at h
    rw [List.isEmpty_iff.1 hempty] at hperm
    exact .inl ((Option.some.inj h).symm.trans hperm.eq_nil.symm)
  | case3 remaining hnone hempty =>
    rw [orderOf_of_nextWorld_eq_none hnone, if_neg hempty] at h
    exact absurd h (by simp)

/-! ## The edges of the map -/

/-- The edges of the map ascend by their sources, and those of one source by their targets. -/
theorem pairwise_sortedEdges (g : WorldGraph) :
    g.sortedEdges.Pairwise fun e e' => e.1 < e'.1 ∨ e.1 = e'.1 ∧ e.2 < e'.2 := by
  have hsorted := pairwise_lt_sortBy edgeLe_iff (g.edges_nodup.map toLex.injective)
  exact hsorted.imp fun h => Prod.Lex.toLex_lt_toLex.1 h

/-- **The least play order.** If no path leads from a world to itself, the worlds are put into an
order in which every edge leads forward. It is the least one of all such orders, comparing names at
the first place where two orders differ. It is the same for every graph with the same worlds and
edges. The map shows it together with the edges, each of them once and in ascending order. -/
theorem play_order_least (g : WorldGraph) (hacyclic : ∀ w, ¬ g.Path w w) :
    ∃ map : WorldMap, g.topologicalOrder = some map.nodes ∧ g.map? = some map
      ∧ (map.nodes.Perm g.worlds
        ∧ ∀ u v, g.Edge u v → map.nodes.idxOf u < map.nodes.idxOf v)
      ∧ (∀ other : List String, other.Perm g.worlds →
        (∀ u v, g.Edge u v → other.idxOf u < other.idxOf v) →
        map.nodes = other ∨ List.Lex (· < ·) map.nodes other)
      ∧ (∀ g' : WorldGraph, (∀ w, w ∈ g'.worlds ↔ w ∈ g.worlds) →
        (∀ e, e ∈ g'.edges ↔ e ∈ g.edges) → g'.topologicalOrder = some map.nodes)
      ∧ map.edges.Perm g.edges
      ∧ map.edges.Pairwise fun e e' => e.1 < e'.1 ∨ e.1 = e'.1 ∧ e.2 < e'.2 := by
  obtain ⟨order, horder⟩ := exists_topologicalOrder_iff.2 (findCycle_eq_nil_iff.2 hacyclic)
  refine ⟨⟨order, g.sortedEdges⟩, horder, by rw [map?, horder, Option.map_some], ?_, ?_, ?_,
    sortBy_perm _ _, pairwise_sortedEdges g⟩
  · exact isPlayOrder_iff.1 (isPlayOrder_of_topologicalOrder horder)
  · intro other hperm hlt
    obtain ⟨-, hloop, hforward⟩ := isPlayOrder_iff.2 ⟨hperm, hlt⟩
    exact orderOf_le horder hperm hloop hforward
  · intro g' hworlds hedges
    have hreordered : g'.Reordered g := ⟨hworlds, hedges⟩
    rw [hreordered.topologicalOrder_eq, horder]

/-- Four worlds, where `B` waits for `a` and for `c`. Capital letters come before small ones. -/
def twoRoadsToB : WorldGraph := ((empty.addEdge "c" "B").addEdge "a" "B").addWorld "D"

theorem play_order_least_twoRoadsToB :
    (∀ w, ¬ twoRoadsToB.Path w w)
      ∧ twoRoadsToB.topologicalOrder = some ["D", "a", "c", "B"]
      ∧ ∀ other : List String, other.Perm twoRoadsToB.worlds →
        (∀ u v, twoRoadsToB.Edge u v → other.idxOf u < other.idxOf v) →
        ["D", "a", "c", "B"] = other ∨ List.Lex (· < ·) ["D", "a", "c", "B"] other := by
  have hacyclic : ∀ w, ¬ twoRoadsToB.Path w w := findCycle_eq_nil_iff.1 (by decide +kernel)
  have horder : twoRoadsToB.topologicalOrder = some ["D", "a", "c", "B"] := by decide +kernel
  obtain ⟨map, hmap, -, -, hleast, -⟩ := play_order_least twoRoadsToB hacyclic
  have hnodes : map.nodes = ["D", "a", "c", "B"] := Option.some.inj (hmap.symm.trans horder)
  rw [hnodes] at hleast
  exact ⟨hacyclic, horder, hleast⟩

end Curriculum.WorldGraph
