import Mathlib.Data.List.Basic
import Mathlib.Logic.Relation
import Curriculum.WorldGraph.Ancestors
import Curriculum.WorldGraph.Order

/-!
# Paths between worlds

A path is one edge or several in a row. `mem_ancestors_iff` says that the
ancestors of a world are all other worlds from which a path leads to it: the
backward search is sound (`path_of_mem_collect`), and it misses nothing, because
a path into the layer it starts from has a last world that is not reached yet
(`exists_path_into_next`).

A play order (`IsPlayOrder`) puts the ends of every path in their order,
`IsPlayOrder.idxOf_lt_of_path`. So no path leads from a world to itself if there
is a play order, and then the ancestors are all worlds from which a path leads.
-/

namespace Curriculum.WorldGraph

variable {g : WorldGraph}

/-- One edge. -/
def Edge (g : WorldGraph) (u v : String) : Prop := (u, v) ∈ g.edges

/-- One edge or several in a row. -/
abbrev Path (g : WorldGraph) : String → String → Prop := Relation.TransGen g.Edge

/-- One edge or several in a row, all of them starting in one of the given worlds. -/
abbrev PathFrom (g : WorldGraph) (worlds : List String) : String → String → Prop :=
  Relation.TransGen fun u v => u ∈ worlds ∧ g.Edge u v

theorem Edge.mem_worlds {u v : String} (h : g.Edge u v) : u ∈ g.worlds ∧ v ∈ g.worlds :=
  g.ends_mem (u, v) h

theorem leadsInto_iff {layer : List String} {u : String} :
    g.leadsInto layer u = true ↔ ∃ v ∈ layer, g.Edge u v := by
  simp only [leadsInto, List.any_eq_true, mem_successors, decide_eq_true_eq]
  constructor
  · intro h
    obtain ⟨v, he, hv⟩ := h
    exact ⟨v, hv, he⟩
  · intro h
    obtain ⟨v, hv, he⟩ := h
    exact ⟨v, he, hv⟩

theorem mem_beyond {unreached layer : List String} {u : String} :
    u ∈ g.beyond unreached layer ↔ u ∈ unreached ∧ ¬ g.leadsInto layer u = true := by
  simp only [beyond, List.mem_filter, Bool.not_eq_true', Bool.not_eq_true]

/-! ## The backward search -/

/-- Induction along the layers of the search. -/
theorem collect_induction (g : WorldGraph) {motive : List String → List String → Prop}
    (step : ∀ unreached layer, unreached.any (g.leadsInto layer) = true →
      motive (g.beyond unreached layer) (unreached.filter (g.leadsInto layer)) →
      motive unreached layer)
    (stop : ∀ unreached layer, ¬ unreached.any (g.leadsInto layer) = true →
      motive unreached layer)
    (unreached layer : List String) : motive unreached layer := by
  induction unreached, layer using collect.induct g with
  | case1 unreached layer hany _ next ih =>
    have hnext : next = unreached.filter (g.leadsInto layer) := by simp [next]
    rw [hnext] at ih
    exact step unreached layer hany ih
  | case2 unreached layer hany => exact stop unreached layer hany

/-- What is collected was not reached before, and a path leads from it into the layer. -/
theorem path_of_mem_collect {unreached layer : List String} {u : String}
    (h : u ∈ g.collect unreached layer) : u ∈ unreached ∧ ∃ v ∈ layer, g.Path u v := by
  induction unreached, layer using collect_induction g with
  | step unreached layer hany ih =>
    -- Collected in this layer, or later: then the path goes on by an edge from this layer.
    rw [collect, dif_pos hany, List.mem_append] at h
    rcases h with h | h
    · obtain ⟨hu, hleads⟩ := List.mem_filter.1 h
      obtain ⟨v, hv, hedge⟩ := leadsInto_iff.1 hleads
      exact ⟨hu, v, hv, .single hedge⟩
    · obtain ⟨hu, v, hv, hpath⟩ := ih h
      obtain ⟨v', hv', hedge⟩ := leadsInto_iff.1 (List.mem_filter.1 hv).2
      exact ⟨(mem_beyond.1 hu).1, v', hv', hpath.tail hedge⟩
  | stop unreached layer hany =>
    rw [collect, dif_neg hany] at h
    exact absurd h List.not_mem_nil

/-- The first world of a path is one of the worlds that the path may start in. -/
theorem PathFrom.mem {worlds : List String} {u v : String} (h : g.PathFrom worlds u v) :
    u ∈ worlds := by
  induction h using Relation.TransGen.head_induction_on with
  | single h => exact h.1
  | head h _ _ => exact h.1

/-- A path into a layer starts with an edge into the layer, or there is a path to a world from which
an edge leads into the layer, over worlds from which none does. -/
theorem exists_path_into_next {unreached layer : List String} {u v : String}
    (h : g.PathFrom unreached u v) (hv : v ∈ layer) :
    g.leadsInto layer u = true ∨ ∃ x ∈ unreached.filter (g.leadsInto layer),
      g.PathFrom (g.beyond unreached layer) u x := by
  induction h using Relation.TransGen.head_induction_on with
  | single h => exact .inl (leadsInto_iff.2 ⟨v, hv, h.2⟩)
  | @head u c hedge hpath ih =>
    by_cases hu : g.leadsInto layer u = true
    · exact .inl hu
    · -- `u` stays unreached, so its edge may be put before what there is from `c` on.
      have hbeyond : u ∈ g.beyond unreached layer := mem_beyond.2 ⟨hedge.1, hu⟩
      rcases ih with hc | ⟨x, hx, hpath'⟩
      · exact .inr ⟨c, List.mem_filter.2 ⟨PathFrom.mem hpath, hc⟩, .single ⟨hbeyond, hedge.2⟩⟩
      · exact .inr ⟨x, hx, hpath'.head ⟨hbeyond, hedge.2⟩⟩

/-- Everything is collected from which a path leads into the layer over worlds that were not reached
before. -/
theorem mem_collect_of_path {unreached layer : List String} {u v : String}
    (h : g.PathFrom unreached u v) (hv : v ∈ layer) : u ∈ g.collect unreached layer := by
  induction unreached, layer using collect_induction g generalizing v with
  | step unreached layer hany ih =>
    rw [collect, dif_pos hany, List.mem_append]
    rcases exists_path_into_next h hv with hu | ⟨x, hx, hpath⟩
    · exact .inl (List.mem_filter.2 ⟨PathFrom.mem h, hu⟩)
    · exact .inr (ih hpath hx)
  | stop unreached layer hany =>
    -- The search does not stop while an unreached world leads into the layer, and one does.
    refine absurd ?_ hany
    rcases exists_path_into_next h hv with hu | ⟨x, hx, -⟩
    · exact List.any_eq_true.2 ⟨u, PathFrom.mem h, hu⟩
    · obtain ⟨hx, hleads⟩ := List.mem_filter.1 hx
      exact List.any_eq_true.2 ⟨x, hx, hleads⟩

/-! ## Ancestors -/

theorem Path.mem_worlds {u v : String} (h : g.Path u v) : u ∈ g.worlds ∧ v ∈ g.worlds := by
  induction h with
  | single h => exact h.mem_worlds
  | tail _ h ih => exact ⟨ih.1, h.mem_worlds.2⟩

/-- A path from another world to `w` can be cut off where it first comes to `w`. -/
theorem Path.cut {u w : String} (h : g.Path u w) (hne : u ≠ w) :
    g.PathFrom (g.worlds.erase w) u w := by
  induction h using Relation.TransGen.head_induction_on with
  | @single u h =>
    exact .single ⟨(g.worlds_nodup.mem_erase_iff).2 ⟨hne, h.mem_worlds.1⟩, h⟩
  | @head u c hedge _ ih =>
    have hu : u ∈ g.worlds.erase w := (g.worlds_nodup.mem_erase_iff).2 ⟨hne, hedge.mem_worlds.1⟩
    by_cases hc : c = w
    · subst hc
      exact .single ⟨hu, hedge⟩
    · exact (ih hc).head ⟨hu, hedge⟩

/-- **Ancestors.** They are the other worlds from which a path leads to a world. -/
theorem mem_ancestors_iff {u w : String} : u ∈ g.ancestors w ↔ u ≠ w ∧ g.Path u w := by
  unfold ancestors
  split
  · rw [NameSet.mem_ofList]
    constructor
    · intro h
      obtain ⟨hu, v, hv, hpath⟩ := path_of_mem_collect h
      rw [List.mem_singleton.1 hv] at hpath
      exact ⟨(g.worlds_nodup.mem_erase_iff.1 hu).1, hpath⟩
    · intro h
      obtain ⟨hne, hpath⟩ := h
      exact mem_collect_of_path (hpath.cut hne) (List.mem_singleton.2 rfl)
  · next hw =>
    constructor
    · intro h
      exact absurd h List.not_mem_nil
    · intro h
      obtain ⟨-, hpath⟩ := h
      exact absurd hpath.mem_worlds.2 hw

/-! ## Play order -/

/-- The world that comes next is one of those that remain, and no edge leads to it from any of
them. -/
theorem nextWorld_spec {remaining : List String} {world : String}
    (h : g.nextWorld remaining = some world) :
    world ∈ remaining ∧ ∀ u ∈ remaining, ¬ g.Edge u world := by
  obtain ⟨hmem, hready⟩ := List.mem_filter.1 (mem_of_least h)
  refine ⟨hmem, fun u hu hedge => ?_⟩
  have hnot := List.all_eq_true.1 hready u (mem_directPredecessors.2 hedge)
  exact of_decide_eq_true hnot hu

/-- The world that comes next is put before an order of the others. -/
theorem orderOf_of_nextWorld {remaining : List String} {world : String}
    (h : g.nextWorld remaining = some world) :
    g.orderOf remaining = (g.orderOf (remaining.erase world)).map (world :: ·) := by
  rw [orderOf]
  split
  · next world' h' =>
    obtain rfl : world = world' := Option.some.inj (h.symm.trans h')
    rfl
  · next hnone => exact absurd (h.symm.trans hnone) (by simp)

/-- Where no world comes next, there is an order only if no world remains. -/
theorem orderOf_of_nextWorld_eq_none {remaining : List String}
    (h : g.nextWorld remaining = none) :
    g.orderOf remaining = if remaining.isEmpty then some [] else none := by
  rw [orderOf]
  split
  · next world h' => exact absurd (h.symm.trans h') (by simp)
  · rfl

/-- An order has the worlds that remained, and no edge leads from a world to itself or to one that
comes before it. -/
theorem orderOf_spec {remaining order : List String} (h : g.orderOf remaining = some order) :
    order.Perm remaining ∧ (∀ u ∈ order, ¬ g.Edge u u)
      ∧ order.Pairwise fun u v => ¬ g.Edge v u := by
  induction remaining using orderOf.induct g generalizing order with
  | case1 remaining world hnext hlt ih =>
    obtain ⟨hmem, hready⟩ := nextWorld_spec hnext
    rw [orderOf_of_nextWorld hnext] at h
    obtain ⟨order', horder', rfl⟩ := Option.map_eq_some_iff.1 h
    obtain ⟨hperm, hself, hpair⟩ := ih horder'
    refine ⟨(hperm.cons world).trans (List.perm_cons_erase hmem).symm, ?_, ?_⟩
    · intro u hu
      rcases List.mem_cons.1 hu with rfl | hu
      · exact hready u hmem
      · exact hself u hu
    · -- What comes later in the order remained when `world` was taken.
      refine List.pairwise_cons.2 ⟨fun v hv => ?_, hpair⟩
      exact hready v (List.mem_of_mem_erase (hperm.mem_iff.1 hv))
  | case2 remaining hnone hempty =>
    rw [orderOf_of_nextWorld_eq_none hnone, if_pos hempty] at h
    rw [List.isEmpty_iff.1 hempty, ← Option.some.inj h]
    exact ⟨.refl _, by simp, .nil⟩
  | case3 remaining hnone hempty =>
    rw [orderOf_of_nextWorld_eq_none hnone, if_neg hempty] at h
    exact absurd h (by simp)

/-- Every world stands once in the order, and no edge leads from a world to itself or to one that
comes before it. -/
structure IsPlayOrder (g : WorldGraph) (order : List String) : Prop where
  perm : order.Perm g.worlds
  loopless : ∀ u ∈ order, ¬ g.Edge u u
  forward : order.Pairwise fun u v => ¬ g.Edge v u

theorem isPlayOrder_of_topologicalOrder {order : List String}
    (h : g.topologicalOrder = some order) : g.IsPlayOrder order :=
  ⟨(orderOf_spec h).1, (orderOf_spec h).2.1, (orderOf_spec h).2.2⟩

/-- In a play order, a world comes before those that a path leads to. -/
theorem IsPlayOrder.idxOf_lt_of_path {order : List String} (h : g.IsPlayOrder order)
    {u v : String} (hpath : g.Path u v) : order.idxOf u < order.idxOf v := by
  have hedge : ∀ {a b}, g.Edge a b → order.idxOf a < order.idxOf b := by
    intro a b he
    have ha : a ∈ order := h.perm.mem_iff.2 he.mem_worlds.1
    have hb : b ∈ order := h.perm.mem_iff.2 he.mem_worlds.2
    have hla := List.idxOf_lt_length_of_mem ha
    have hlb := List.idxOf_lt_length_of_mem hb
    rcases Nat.lt_trichotomy (order.idxOf a) (order.idxOf b) with hlt | heq | hgt
    · exact hlt
    · obtain rfl := (List.idxOf_inj ha).1 heq
      exact absurd he (h.loopless a ha)
    · have hno := List.pairwise_iff_getElem.1 h.forward _ _ hlb hla hgt
      rw [List.getElem_idxOf, List.getElem_idxOf] at hno
      exact absurd he hno
  induction hpath with
  | single he => exact hedge he
  | tail _ he ih => exact Nat.lt_trans ih (hedge he)

/-- If there is a play order, then no path leads from a world to itself. -/
theorem IsPlayOrder.not_path_self {order : List String} (h : g.IsPlayOrder order) (w : String) :
    ¬ g.Path w w := fun hpath => Nat.lt_irrefl _ (h.idxOf_lt_of_path hpath)

/-- If there is a play order, then the ancestors of a world are all worlds from which a path leads
to it. -/
theorem mem_ancestors_iff_path {order : List String} (h : g.topologicalOrder = some order)
    {u w : String} : u ∈ g.ancestors w ↔ g.Path u w := by
  rw [mem_ancestors_iff]
  refine ⟨And.right, fun hpath => ⟨?_, hpath⟩⟩
  intro h
  subst h
  exact (isPlayOrder_of_topologicalOrder h).not_path_self u hpath

end Curriculum.WorldGraph
