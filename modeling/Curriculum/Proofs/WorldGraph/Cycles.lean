import Curriculum.Proofs.WorldGraph.Paths

/-!
# Finding cycles

The depth-first search for a cycle is correct. If it passes over some worlds
without finding one, it has finished with them in an order in which every edge
leads to a world that was finished before (`exists_finished`): the order of
finishing, last world first, is a play order of the worlds passed over. If it
stops, it stands at the end of a trail and sees an edge back to a world on the
trail (`exists_trail`), so a path leads from that world to itself.

Where there is a play order at all, the order by least names exists as well: the
first of the remaining worlds in the play order waits for nothing
(`exists_isReady`).

Main statements: `findCycle_eq_nil_iff`, nothing is found exactly if no path leads
from a world to itself, and `exists_topologicalOrder_iff`, then and only then can
the worlds be put in order.
-/

namespace Curriculum.WorldGraph

variable {g : WorldGraph}

/-! ## Worlds that the search finishes with -/

/-- Every edge from a world of the list leads to a later one or to a world that was done before. -/
def LeadsOn (g : WorldGraph) (done : String → Prop) : List String → Prop
  | [] => True
  | u :: after => (∀ v, g.Edge u v → v ∈ after ∨ done v) ∧ g.LeadsOn done after

theorem LeadsOn.mono {done done' : String → Prop} (h : ∀ u v, g.Edge u v → done v → done' v)
    {l : List String} (hl : g.LeadsOn done l) : g.LeadsOn done' l := by
  induction l with
  | nil => trivial
  | cons u after ih => exact ⟨fun v he => (hl.1 v he).imp id (h u v he), ih hl.2⟩

/-- Two lists in a row, where the second is done before the first. -/
theorem LeadsOn.append {done : String → Prop} {l l' : List String}
    (h : g.LeadsOn (fun v => v ∈ l' ∨ done v) l) (h' : g.LeadsOn done l') :
    g.LeadsOn done (l ++ l') := by
  induction l with
  | nil => exact h'
  | cons u after ih =>
    refine ⟨fun v he => ?_, ih h.2⟩
    rcases h.1 v he with hv | hv | hv
    · exact .inl (List.mem_append_left _ hv)
    · exact .inl (List.mem_append_right _ hv)
    · exact .inr hv

/-- What a search does that finds no cycle: of the worlds that were not seen it finishes with some,
the last of them first in `finished`, and it leaves the `rest`. -/
structure Finishes (g : WorldGraph) (path next unseen rest finished : List String) : Prop where
  perm : unseen.Perm (finished ++ rest)
  /-- The worlds to search from are finished, if they were not done before. -/
  passed : ∀ w ∈ next, w ∉ path ∧ w ∉ rest
  leadsOn : g.LeadsOn (fun v => v ∉ path ∧ v ∉ unseen) finished

namespace Finishes

variable {path next more unseen rest rest' finished before after : List String} {world : String}

theorem nil (path unseen : List String) : g.Finishes path [] unseen unseen [] :=
  ⟨.refl _, fun _ hw => absurd hw List.not_mem_nil, trivial⟩

/-- What is left was not seen. -/
theorem mem_unseen (h : g.Finishes path next unseen rest finished) {w : String} (hw : w ∈ rest) :
    w ∈ unseen := h.perm.mem_iff.2 (List.mem_append_right _ hw)

/-- A world that was done before is passed. -/
theorem skip (hpath : world ∉ path) (hworld : world ∉ unseen)
    (h : g.Finishes path more unseen rest finished) :
    g.Finishes path (world :: more) unseen rest finished where
  perm := h.perm
  passed := List.forall_mem_cons.2 ⟨⟨hpath, fun hw => hworld (h.mem_unseen hw)⟩, h.passed⟩
  leadsOn := h.leadsOn

/-- A world is entered, what lies behind it is finished, and then the world itself. -/
theorem enter (hnodup : unseen.Nodup) (hpath : world ∉ path) (hworld : world ∈ unseen)
    (h : g.Finishes (world :: path) (g.successors world) (unseen.erase world) rest before)
    (h' : g.Finishes path more rest rest' after) :
    g.Finishes path (world :: more) unseen rest' (after ++ world :: before) := by
  have hunseen : unseen.Perm (world :: (before ++ rest)) :=
    (List.perm_cons_erase hworld).trans (h.perm.cons world)
  -- A world that was not seen and is not left is the one that is entered, or behind it.
  have hbehind : ∀ v, v ∈ unseen → v ∉ rest → v = world ∨ v ∈ before := by
    intro v hv hrest
    rcases List.mem_cons.1 (hunseen.mem_iff.1 hv) with hv | hv
    · exact .inl hv
    · exact .inr ((List.mem_append.1 hv).resolve_right hrest)
  constructor
  case perm =>
    refine hunseen.trans (((h'.perm.append_left before).cons world).trans ?_)
    rw [← List.cons_append, ← List.append_assoc]
    exact List.perm_append_comm.append_right rest'
  case passed =>
    refine List.forall_mem_cons.2 ⟨⟨hpath, fun hw => ?_⟩, h'.passed⟩
    exact hnodup.not_mem_erase (h.mem_unseen (h'.mem_unseen hw))
  case leadsOn =>
    refine LeadsOn.append (h'.leadsOn.mono fun _ v _ hv => ?_)
      ⟨fun v he => ?_, h.leadsOn.mono fun _ v _ hv => ?_⟩
    · by_cases hunseen' : v ∈ unseen
      · exact .inl (List.mem_cons.2 (hbehind v hunseen' hv.2))
      · exact .inr ⟨hv.1, hunseen'⟩
    · obtain ⟨hne, hrest⟩ := h.passed v (mem_successors.2 he)
      rw [List.mem_cons, not_or] at hne
      by_cases hunseen' : v ∈ unseen
      · exact .inl ((hbehind v hunseen' hrest).resolve_left hne.1)
      · exact .inr ⟨hne.2, hunseen'⟩
    · rw [List.mem_cons, not_or] at hv
      exact ⟨hv.1.2, fun hunseen' => hv.2 ((List.mem_erase_of_ne hv.1.1).2 hunseen')⟩

end Finishes

/-- **A search without a cycle** finishes with what it does not leave. -/
theorem exists_finished {path next unseen : List String} (hnodup : unseen.Nodup)
    {rest : { rest : List String // rest.length ≤ unseen.length }}
    (h : g.explore path next unseen = .ok rest) :
    ∃ finished, g.Finishes path next unseen rest.val finished := by
  induction path, next, unseen using explore.induct g with
  | case1 path unseen =>
    rw [explore] at h
    obtain rfl := Except.ok.inj h
    exact ⟨[], .nil path unseen⟩
  | case2 path unseen world more hpath =>
    rw [explore, if_pos hpath] at h
    exact absurd h (by simp)
  | case3 path unseen world more hpath hworld _ cycle hcycle =>
    rw [explore, if_neg hpath, dif_pos hworld] at h
    simp [hcycle] at h
  | case4 path unseen world more hpath hworld _ rest₁ hle hok cycle hcycle =>
    rw [explore, if_neg hpath, dif_pos hworld] at h
    simp [hok, hcycle] at h
  | case5 path unseen world more hpath hworld _ rest₁ hle hok rest₂ hle₂ hok₂ ih ih₂ =>
    rw [explore, if_neg hpath, dif_pos hworld] at h
    simp only [hok, hok₂] at h
    obtain rfl := Except.ok.inj h
    obtain ⟨before, hbefore⟩ := ih (hnodup.erase world) hok
    have hnodup₁ : rest₁.Nodup :=
      ((hbefore.perm.nodup_iff.1 (hnodup.erase world)).sublist (List.sublist_append_right _ _))
    obtain ⟨after, hafter⟩ := ih₂ hnodup₁ hok₂
    exact ⟨_, .enter hnodup hpath hworld hbefore hafter⟩
  | case6 path unseen world more hpath hworld ih =>
    rw [explore, if_neg hpath, dif_neg hworld] at h
    obtain ⟨finished, hfinished⟩ := ih hnodup h
    exact ⟨finished, hfinished.skip hpath hworld⟩

/-- No world of a list in which edges only lead to later worlds leads to a world outside. -/
theorem LeadsOn.not_edge {l : List String} (h : g.LeadsOn (fun _ => False) l) {u v : String}
    (hu : u ∈ l) (hv : v ∉ l) : ¬ g.Edge u v := by
  induction l with
  | nil => exact absurd hu List.not_mem_nil
  | cons x after ih =>
    rw [List.mem_cons, not_or] at hv
    rcases List.mem_cons.1 hu with rfl | hu
    · exact fun he => (h.1 v he).elim hv.2 id
    · exact ih h.2 hu hv.2

/-- Where every edge leads to a later world, none leads to the same world or to an earlier one. -/
theorem LeadsOn.forward {l : List String} (h : g.LeadsOn (fun _ => False) l) (hnodup : l.Nodup) :
    (∀ u ∈ l, ¬ g.Edge u u) ∧ l.Pairwise fun u v => ¬ g.Edge v u := by
  induction l with
  | nil => exact ⟨fun _ hu => absurd hu List.not_mem_nil, .nil⟩
  | cons u after ih =>
    obtain ⟨hu, hafter⟩ := List.nodup_cons.1 hnodup
    obtain ⟨hloop, hpair⟩ := ih h.2 hafter
    exact ⟨List.forall_mem_cons.2 ⟨fun he => (h.1 u he).elim hu id, hloop⟩,
      List.pairwise_cons.2 ⟨fun v hv => LeadsOn.not_edge h.2 hv hu, hpair⟩⟩

/-- A search that goes through all worlds and finds no cycle leaves a play order. -/
theorem exists_isPlayOrder {rest : { rest : List String // rest.length ≤ g.worlds.length }}
    (h : g.explore [] g.worlds g.worlds = .ok rest) : ∃ order, g.IsPlayOrder order := by
  obtain ⟨finished, hperm, hpassed, hleads⟩ := exists_finished g.worlds_nodup h
  have hrest : rest.val = [] := by
    refine List.eq_nil_iff_forall_not_mem.2 fun w hw => ?_
    exact (hpassed w (hperm.mem_iff.2 (List.mem_append_right _ hw))).2 hw
  rw [hrest, List.append_nil] at hperm
  -- Edges end in worlds of the graph, so none leads to a world that was done before the search.
  have hforward : g.LeadsOn (fun _ => False) finished :=
    hleads.mono fun _ v he hv => hv.2 he.mem_worlds.2
  obtain ⟨hloop, hpair⟩ := hforward.forward (hperm.nodup_iff.1 g.worlds_nodup)
  exact ⟨finished, hperm.symm, hloop, hpair⟩

/-! ## Where the search stops -/

/-- Worlds that were entered one from the other, the last of them first. -/
abbrev IsTrail (g : WorldGraph) (path : List String) : Prop :=
  path.IsChain fun v u => g.Edge u v

/-- A trail goes on to a world that an edge leads to from its end. -/
theorem IsTrail.enter {path : List String} {world : String} (h : g.IsTrail path)
    (hworld : ∀ v ∈ path.head?, g.Edge v world) : g.IsTrail (world :: path) := by
  cases path with
  | nil => exact .singleton world
  | cons v rest => exact List.isChain_cons_cons.2 ⟨hworld v rfl, h⟩

/-- A search that finds a cycle stands at the end of a trail without repetition and sees an edge back
to it. -/
theorem exists_trail {path next unseen : List String} {cycle : List (String × String)}
    (h : g.explore path next unseen = .error cycle) (htrail : g.IsTrail path)
    (hnodup : path.Nodup) (hnext : ∀ w ∈ next, ∀ v ∈ path.head?, g.Edge v w) :
    ∃ path' world, g.IsTrail path' ∧ path'.Nodup ∧ world ∈ path'
      ∧ (∀ v ∈ path'.head?, g.Edge v world) ∧ cycle = closeCycle path' world := by
  induction path, next, unseen using explore.induct g with
  | case1 path unseen =>
    rw [explore] at h
    exact absurd h (by simp)
  | case2 path unseen world more hpath =>
    rw [explore, if_pos hpath] at h
    exact ⟨path, world, htrail, hnodup, hpath, hnext world List.mem_cons_self,
      (Except.error.inj h).symm⟩
  | case3 path unseen world more hpath hworld _ cycle₁ hcycle ih =>
    rw [explore, if_neg hpath, dif_pos hworld] at h
    simp only [hcycle] at h
    obtain rfl := Except.error.inj h
    refine ih hcycle (htrail.enter (hnext world List.mem_cons_self))
      (List.nodup_cons.2 ⟨hpath, hnodup⟩) fun w hw v hv => ?_
    obtain rfl := Option.some.inj hv
    exact mem_successors.1 hw
  | case4 path unseen world more hpath hworld _ rest₁ hle hok cycle₁ hcycle _ ih =>
    rw [explore, if_neg hpath, dif_pos hworld] at h
    simp only [hok, hcycle] at h
    obtain rfl := Except.error.inj h
    exact ih hcycle htrail hnodup fun w hw => hnext w (List.mem_cons_of_mem _ hw)
  | case5 path unseen world more hpath hworld _ rest₁ hle hok rest₂ hle₂ hok₂ =>
    rw [explore, if_neg hpath, dif_pos hworld] at h
    simp only [hok, hok₂] at h
    exact absurd h (by simp)
  | case6 path unseen world more hpath hworld ih =>
    rw [explore, if_neg hpath, dif_neg hworld] at h
    exact ih h htrail hnodup fun w hw => hnext w (List.mem_cons_of_mem _ hw)

/-- From a world on a trail a path leads to the end of the trail, unless it is the end. -/
theorem IsTrail.path {path : List String} {v : String} (h : g.IsTrail (v :: path)) {u : String}
    (hu : u ∈ path) : g.Path u v := by
  induction path generalizing v with
  | nil => exact absurd hu List.not_mem_nil
  | cons w rest ih =>
    obtain ⟨hedge, hrest⟩ := List.isChain_cons_cons.1 h
    rcases List.mem_cons.1 hu with rfl | hu
    · exact .single hedge
    · exact (ih hrest hu).tail hedge

/-- A search that finds a cycle has come upon a world from which a path leads to itself. -/
theorem exists_path_self {cycle : List (String × String)}
    (h : g.explore [] g.worlds g.worlds = .error cycle) : cycle ≠ [] ∧ ∃ w, g.Path w w := by
  obtain ⟨path, world, htrail, -, hworld, hback, rfl⟩ := exists_trail h .nil .nil (by simp)
  refine ⟨by simp [closeCycle], world, ?_⟩
  cases path with
  | nil => exact absurd hworld List.not_mem_nil
  | cons v rest =>
    have hedge : g.Edge v world := hback v rfl
    rcases List.mem_cons.1 hworld with rfl | hrest
    · exact .single hedge
    · exact (htrail.path hrest).tail hedge

/-! ## Cycles and orders -/

/-- There is a play order if no cycle is found. -/
theorem findCycle_eq_nil_iff_isPlayOrder : g.findCycle = [] ↔ ∃ order, g.IsPlayOrder order := by
  unfold findCycle
  split
  · next cycle hcycle =>
    obtain ⟨hne, w, hpath⟩ := exists_path_self hcycle
    constructor
    · exact fun h => absurd h hne
    · intro h
      obtain ⟨order, horder⟩ := h
      exact absurd hpath (horder.not_path_self w)
  · next rest hok => exact ⟨fun _ => exists_isPlayOrder hok, fun _ => rfl⟩

/-- **No cycle is found** exactly if no path leads from a world to itself. -/
theorem findCycle_eq_nil_iff : g.findCycle = [] ↔ ∀ w, ¬ g.Path w w := by
  constructor
  · intro h
    obtain ⟨order, horder⟩ := findCycle_eq_nil_iff_isPlayOrder.1 h
    exact horder.not_path_self
  · intro h
    unfold findCycle
    split
    · next cycle hcycle =>
      obtain ⟨-, w, hpath⟩ := exists_path_self hcycle
      exact absurd hpath (h w)
    · rfl

/-! ## The order by least names -/

theorem least_eq_none_iff {l : List String} : least l = none ↔ l = [] := by
  cases l with
  | nil => exact ⟨fun _ => rfl, fun _ => rfl⟩
  | cons name rest =>
    simp only [least]
    split <;> simp

/-- Of the worlds that remain, the one that comes first in a play order waits for none of them. -/
theorem exists_isReady {order remaining : List String} (h : g.IsPlayOrder order)
    (hsub : ∀ w ∈ remaining, w ∈ g.worlds) (hne : remaining ≠ []) :
    ∃ w ∈ remaining, g.isReady remaining w = true := by
  obtain ⟨w, hw⟩ := List.exists_mem_of_ne_nil remaining hne
  obtain ⟨first, hfirst⟩ := Option.isSome_iff_exists.1
    (List.find?_isSome (p := (· ∈ remaining)).2 ⟨w, h.perm.mem_iff.2 (hsub w hw), decide_eq_true hw⟩)
  obtain ⟨hmem, before, after, horder, hbefore⟩ := List.find?_eq_some_iff_append.1 hfirst
  have hmem : first ∈ remaining := of_decide_eq_true hmem
  refine ⟨first, hmem, List.all_eq_true.2 fun u hu => decide_eq_true fun hrem => ?_⟩
  have hedge : g.Edge u first := mem_directPredecessors.1 hu
  have hpair := h.forward
  rw [horder] at hpair
  have huorder : u ∈ before ++ first :: after := horder ▸ h.perm.mem_iff.2 hedge.mem_worlds.1
  rcases List.mem_append.1 huorder with hu | hu
  · simpa [hrem] using hbefore u hu
  · rcases List.mem_cons.1 hu with rfl | hu
    · exact h.loopless u (h.perm.mem_iff.2 hedge.mem_worlds.1) hedge
    · exact (List.pairwise_cons.1 (List.pairwise_append.1 hpair).2.1).1 u hu hedge

theorem exists_orderOf {order remaining : List String} (h : g.IsPlayOrder order)
    (hsub : ∀ w ∈ remaining, w ∈ g.worlds) : ∃ order', g.orderOf remaining = some order' := by
  induction remaining using orderOf.induct g with
  | case1 remaining world hnext hlt ih =>
    obtain ⟨order', horder'⟩ := ih fun w hw => hsub w (List.mem_of_mem_erase hw)
    exact ⟨world :: order', by rw [orderOf_of_nextWorld hnext, horder', Option.map_some]⟩
  | case2 remaining hnone hempty =>
    exact ⟨[], by rw [orderOf_of_nextWorld_eq_none hnone, if_pos hempty]⟩
  | case3 remaining hnone hempty =>
    -- As long as worlds remain, one of them waits for nothing.
    obtain ⟨w, hw, hready⟩ := exists_isReady h hsub (mt List.isEmpty_iff.2 hempty)
    have hnil := least_eq_none_iff.1 hnone
    exact absurd (hnil ▸ List.mem_filter.2 ⟨hw, hready⟩) List.not_mem_nil

/-- **The worlds can be put in order** exactly if no cycle is found. -/
theorem exists_topologicalOrder_iff :
    (∃ order, g.topologicalOrder = some order) ↔ g.findCycle = [] := by
  rw [findCycle_eq_nil_iff_isPlayOrder]
  constructor
  · intro h
    obtain ⟨order, horder⟩ := h
    exact ⟨order, isPlayOrder_of_topologicalOrder horder⟩
  · intro h
    obtain ⟨order, horder⟩ := h
    exact exists_orderOf horder fun w hw => hw

end Curriculum.WorldGraph
