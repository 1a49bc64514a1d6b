import Mathlib.Data.List.Chain
import Mathlib.Data.List.Nodup
import Curriculum.Proofs.WorldGraph.Cycles

/-!
# Cycles that are found

The edges that the search reports are a cycle of the graph. The search stands at
the end of a trail on which no world is repeated; the part of the trail after the
world that it comes back to, with the edge that leads back, is a walk from that
world to itself (`isWalk_closeCycle`).

There are two more ways to learn that worlds wait for each other. Peeling takes
away worlds that nothing leads to, as often as it can. It never takes away a
world that lies on a cycle, for the world before it on the cycle is still there
(`mem_peel_of_path_self`); where there is no cycle there is a play order, and as
long as worlds remain the first of them in that order can be taken
(`peel_eq_nil`). The order by least names fails in the same case.

Main statement: `detectors_agree`, the four ways give the same verdict, and the
one that names a cycle names one that goes around once (`IsSimpleCycle`).
-/

namespace Curriculum.WorldGraph

variable {g : WorldGraph}

/-! ## Walks -/

/-- Edges in a row, the first of them from `u` and the last to `v`. -/
structure IsWalk (g : WorldGraph) (u v : String) (legs : List (String × String)) : Prop where
  edges : ∀ e ∈ legs, g.Edge e.1 e.2
  linked : legs.IsChain fun e next => e.2 = next.1
  starts : ∃ e, legs.head? = some e ∧ e.1 = u
  ends : ∃ e, legs.getLast? = some e ∧ e.2 = v

theorem IsWalk.single {u v : String} (h : g.Edge u v) : g.IsWalk u v [(u, v)] where
  edges e he := by
    rw [List.mem_singleton.1 he]
    exact h
  linked := .singleton _
  starts := ⟨_, rfl, rfl⟩
  ends := ⟨_, rfl, rfl⟩

theorem IsWalk.cons {u v w : String} {legs : List (String × String)} (h : g.Edge u v)
    (hwalk : g.IsWalk v w legs) : g.IsWalk u w ((u, v) :: legs) := by
  obtain ⟨hedges, hlinked, ⟨first, hfirst, rfl⟩, last, hlast, rfl⟩ := hwalk
  obtain ⟨rest, rfl⟩ := List.head?_eq_some_iff.1 hfirst
  exact ⟨List.forall_mem_cons.2 ⟨h, hedges⟩, List.isChain_cons_cons.2 ⟨rfl, hlinked⟩,
    ⟨_, rfl, rfl⟩, last, by rw [List.getLast?_cons_cons, hlast], rfl⟩

/-- The pairs of neighbours are a walk if an edge leads from each world to the next. -/
theorem isWalk_zip {u v : String} {between : List String}
    (h : (u :: (between ++ [v])).IsChain g.Edge) :
    g.IsWalk u v ((u :: between).zip (between ++ [v])) := by
  induction between generalizing u with
  | nil => exact .single (List.isChain_cons_cons.1 h).1
  | cons w rest ih =>
    obtain ⟨hedge, hrest⟩ := List.isChain_cons_cons.1 h
    exact .cons hedge (ih hrest)

/-! ## The cycle that is closed -/

/-- A cycle that goes around once: edges in a row, the last of them back to where the first one
starts, and no two from the same world. -/
structure IsSimpleCycle (g : WorldGraph) (cycle : List (String × String)) : Prop where
  edges : ∀ e ∈ cycle, g.Edge e.1 e.2
  linked : cycle.IsChain fun e next => e.2 = next.1
  closed : ∃ first last, cycle.head? = some first ∧ cycle.getLast? = some last ∧ last.2 = first.1
  once : (cycle.map Prod.fst).Nodup

/-- A walk that comes back is a cycle that goes around once if it repeats no world. -/
theorem IsWalk.isSimpleCycle {w : String} {legs : List (String × String)} (h : g.IsWalk w w legs)
    (honce : (legs.map Prod.fst).Nodup) : g.IsSimpleCycle legs := by
  obtain ⟨first, hfirst, hstart⟩ := h.starts
  obtain ⟨last, hlast, hend⟩ := h.ends
  exact ⟨h.edges, h.linked, ⟨first, last, hfirst, hlast, hend.trans hstart.symm⟩, honce⟩

/-- Of the trail only what lies after the world counts, up to its end. -/
theorem closeCycle_append {before after : List String} {world : String}
    (h : world ∉ before) :
    closeCycle (before ++ world :: after) world
      = (world :: before.reverse).zip (before.reverse ++ [world]) := by
  have hbefore : ∀ w ∈ before, decide (w ≠ world) = true := fun w hw =>
    decide_eq_true fun heq => h (heq ▸ hw)
  rw [closeCycle, List.takeWhile_append_of_pos hbefore, List.takeWhile_cons_of_neg (by simp),
    List.append_nil]
  rfl

/-- Where a trail without repetition leads back to one of its worlds, a cycle is closed. -/
theorem isSimpleCycle_closeCycle {path : List String} {world : String} (htrail : g.IsTrail path)
    (hnodup : path.Nodup) (hworld : world ∈ path) (hback : ∀ v ∈ path.head?, g.Edge v world) :
    g.IsSimpleCycle (closeCycle path world) := by
  obtain ⟨before, after, rfl, hbefore⟩ := List.eq_append_cons_of_mem hworld
  rw [closeCycle_append hbefore]
  -- From the end of the trail back to the world and from there to the end, and turned around.
  have hchain : (world :: (before ++ [world])).IsChain fun v u => g.Edge u v :=
    (List.isChain_cons_split.1 (htrail.enter hback)).1
  have hforth : (world :: (before.reverse ++ [world])).IsChain g.Edge := by
    rw [← List.isChain_reverse] at hchain
    simpa using hchain
  refine (isWalk_zip hforth).isSimpleCycle ?_
  rw [List.map_fst_zip (by simp)]
  exact List.nodup_cons.2
    ⟨mt List.mem_reverse.1 hbefore, List.nodup_reverse.2 (List.nodup_append.1 hnodup).1⟩

/-- What is found is a cycle of the graph. -/
theorem isSimpleCycle_findCycle (h : g.findCycle ≠ []) : g.IsSimpleCycle g.findCycle := by
  unfold findCycle at h ⊢
  split
  · next cycle hcycle =>
    obtain ⟨path, world, htrail, hnodup, hworld, hback, rfl⟩ :=
      exists_trail hcycle .nil .nil (by simp)
    exact isSimpleCycle_closeCycle htrail hnodup hworld hback
  · next rest hok => simp [hok] at h

-- The cycle need not go through the world that the search starts from.
example : (((empty.addEdge "a" "b").addEdge "b" "c").addEdge "c" "b").findCycle
    = [("b", "c"), ("c", "b")] := by decide +kernel

/-! ## Peeling -/

theorem mem_waiting {remaining : List String} {w : String} :
    w ∈ g.waiting remaining ↔ w ∈ remaining ∧ ∃ u ∈ remaining, g.Edge u w := by
  simp [waiting, isReady, Edge, and_comm]

/-- If the worlds can be put in order, all of them are taken away. -/
theorem peel_eq_nil {order remaining : List String} (h : g.IsPlayOrder order)
    (hsub : ∀ w ∈ remaining, w ∈ g.worlds) : g.peel remaining = [] := by
  induction remaining using peel.induct g with
  | case1 remaining hany _ ih =>
    rw [peel, dif_pos hany]
    exact ih fun w hw => hsub w (mem_waiting.1 hw).1
  | case2 remaining hnone =>
    rw [peel, dif_neg hnone]
    by_contra hne
    obtain ⟨w, hw, hready⟩ := exists_isReady h hsub hne
    exact hnone (List.any_eq_true.2 ⟨w, hw, hready⟩)

/-- A world from which a path leads to itself has another such world before it. -/
theorem Path.exists_edge_self {w : String} (h : g.Path w w) : ∃ u, g.Edge u w ∧ g.Path u u := by
  obtain ⟨u, hpath, hedge⟩ := Relation.TransGen.tail'_iff.1 h
  exact ⟨u, hedge, .head' hedge hpath⟩

/-- Worlds from which a path leads to themselves are never taken away. -/
theorem mem_peel_of_path_self {remaining : List String}
    (h : ∀ w, g.Path w w → w ∈ remaining) {w : String} (hw : g.Path w w) :
    w ∈ g.peel remaining := by
  induction remaining using peel.induct g with
  | case1 remaining hany _ ih =>
    rw [peel, dif_pos hany]
    refine ih fun u hu => ?_
    obtain ⟨v, hedge, hv⟩ := hu.exists_edge_self
    exact mem_waiting.2 ⟨h u hu, v, h v hv, hedge⟩
  | case2 remaining hnone =>
    rw [peel, dif_neg hnone]
    exact h w hw

theorem hasCycle_eq_false_iff : g.hasCycle = false ↔ ∀ w, ¬ g.Path w w := by
  have hempty : g.hasCycle = false ↔ g.peel g.worlds = [] := by simp [hasCycle]
  rw [hempty]
  constructor
  · intro h w hw
    have hmem := mem_peel_of_path_self (fun _ hpath => hpath.mem_worlds.1) hw
    exact absurd (h ▸ hmem) List.not_mem_nil
  · intro h
    obtain ⟨order, horder⟩ := findCycle_eq_nil_iff_isPlayOrder.1 (findCycle_eq_nil_iff.2 h)
    exact peel_eq_nil horder fun _ hw => hw

/-! ## The verdict -/

/-- **Cycles are detected.** No cycle is found exactly if no path leads from a world to itself; in
this case and no other, peeling leaves nothing, the worlds can be put in order, and the graph passes
validation. A cycle that is found is one of the graph and goes around once. -/
theorem detectors_agree (g : WorldGraph) :
    (g.findCycle = [] ↔ ∀ w, ¬ g.Path w w)
      ∧ (g.hasCycle = false ↔ ∀ w, ¬ g.Path w w)
      ∧ ((∃ order, g.topologicalOrder = some order) ↔ ∀ w, ¬ g.Path w w)
      ∧ (g.validate = .ok () ↔ ∀ w, ¬ g.Path w w)
      ∧ (g.findCycle ≠ [] → g.IsSimpleCycle g.findCycle) :=
  ⟨findCycle_eq_nil_iff, hasCycle_eq_false_iff,
    exists_topologicalOrder_iff.trans findCycle_eq_nil_iff,
    validate_eq_ok_iff.trans findCycle_eq_nil_iff, isSimpleCycle_findCycle⟩

end Curriculum.WorldGraph
