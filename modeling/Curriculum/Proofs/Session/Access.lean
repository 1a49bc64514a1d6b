import Mathlib.Data.List.Forall2
import Curriculum.Proofs.Availability.Refusal
import Curriculum.Proofs.Session.Availability

/-!
# What stays open

What is open at a level is open at all later levels of its world and at all
levels of the worlds that a path leads to: the levels that introduce a name and
the paths that lead from them only become more on the way (`OpenAt.later`,
`OpenAt.along`). Nor is anything closed by more paths, `OpenAt.extend`.

More paths change nothing else about what is listed. Items are sorted by what
they are and not by whether they are open (`sortComputed_project`), so two
compilations that differ in their paths list the same items in the same places;
`Level.Opened` compares them one by one.

Main statement: `open_stays_open`.
-/

namespace Curriculum

/-! ## Open by and by -/

namespace Game

variable {game : Game} {graph graph' : WorldGraph} {kind : Kind} {world : String} {index : Int}
  {name : String}

/-- What is open at a level is open at the later levels of its world. -/
theorem OpenAt.later (h : game.OpenAt graph kind world index name) {index' : Int}
    (hle : index ≤ index') : game.OpenAt graph kind world index' name := by
  rcases h with hbefore | ⟨j, hj, hnew⟩ | ⟨hkind, j, hj, hstate⟩
  · exact .inl hbefore
  · exact .inr (.inl ⟨j, by omega, hnew⟩)
  · exact .inr (.inr ⟨hkind, j, by omega, hstate⟩)

/-- What is open at a level is open at all levels of the worlds that a path leads to. -/
theorem OpenAt.along (h : game.OpenAt graph kind world index name) {world' : String}
    (hpath : graph.Path world world') (index' : Int) :
    game.OpenAt graph kind world' index' name := by
  refine .inl ?_
  rcases h with ⟨u, hu, j, hintro⟩ | ⟨j, -, hnew⟩ | ⟨hkind, j, -, hstate⟩
  · exact ⟨u, hu.trans hpath, j, hintro⟩
  · exact ⟨world, hpath, j, .inl hnew⟩
  · exact ⟨world, hpath, j, .inr ⟨hkind, hstate⟩⟩

/-- What is open at a level is open there if there are more edges. -/
theorem OpenAt.extend (h : game.OpenAt graph kind world index name)
    (hedge : ∀ u v, graph.Edge u v → graph'.Edge u v) :
    game.OpenAt graph' kind world index name := by
  rcases h with ⟨u, hu, hintro⟩ | hhere
  · exact .inl ⟨u, Relation.TransGen.mono hedge _ _ hu, hintro⟩
  · exact .inr hhere

/-- An item is listed as open at a level. -/
def UnlockedAt (game : Game) (kind : Kind) (world : String) (index : Int) (name : String) : Prop :=
  ∃ l info i, game.level? world index = some l ∧ l.inventory.get? kind = some info
    ∧ i ∈ info.computed ∧ i.name = name ∧ i.locked = false

end Game

/-! ## Opened by more edges -/

/-- An item is listed as before, except that it may have been opened. -/
structure ComputedItem.Opened (i i' : ComputedItem) : Prop where
  same : i' = { i with locked := i'.locked }
  stays : i.locked = false → i'.locked = false

/-- The items of all kinds are listed as before and in the same order, except that some may have
been opened. -/
def Level.Opened (l l' : Level) : Prop :=
  ∀ kind, ∃ info info', l.inventory.get? kind = some info ∧ l'.inventory.get? kind = some info'
    ∧ List.Forall₂ ComputedItem.Opened info.computed info'.computed

/-- Where an item is listed does not depend on what is open, new or taken away. -/
theorem sortComputed_project (unlocked fresh : List String) (info : Info) (items : List Item) :
    sortComputed (items.map (Item.project unlocked fresh info))
      = (sortBy (fun a b => tripleLe (Item.project [] [] .empty a).sortKey
          (Item.project [] [] .empty b).sortKey) items).map (Item.project unlocked fresh info) := by
  rw [sortComputed_eq_sortBy, sortBy_map]
  rfl

theorem opened_sortComputed {unlocked unlocked' fresh fresh' : List String} {items : List Item}
    (hfresh : ∀ i ∈ items, i.name ∈ fresh ↔ i.name ∈ fresh')
    (hunlocked : ∀ i ∈ items, i.name ∈ unlocked → i.name ∈ unlocked') (info : Info) :
    List.Forall₂ ComputedItem.Opened
      (sortComputed (items.map (Item.project unlocked fresh info)))
      (sortComputed (items.map (Item.project unlocked' fresh' info))) := by
  rw [sortComputed_project, sortComputed_project, List.forall₂_map_left_iff,
    List.forall₂_map_right_iff, List.forall₂_same]
  intro i hi
  have hmem : i ∈ items := mem_sortBy.1 hi
  constructor
  case same => simp only [Item.project, hfresh i hmem]
  case stays =>
    intro hopen
    exact i.locked_project.2 (hunlocked i hmem (i.locked_project.1 hopen))

namespace Game

variable {game : Game} {graph graph' : WorldGraph} {catalogue : Catalogue}

/-- With more edges every level lists the same items, none of them closed that was open. -/
theorem opened_compiled (hkeyed : catalogue.Keyed) (hvalid : game.validate graph = .ok ())
    (hvalid' : game.validate graph' = .ok ()) (hkinds : ∀ kind, game.hasKind kind = true)
    (hedge : ∀ u v, graph.Edge u v → graph'.Edge u v) (ds : Declarations) (notFound world : String)
    (index : Int) :
    Option.Rel Level.Opened ((game.compiled graph catalogue ds notFound).level? world index)
      ((game.compiled graph' catalogue ds notFound).level? world index) := by
  obtain ⟨order, horder⟩ :=
    WorldGraph.exists_topologicalOrder_iff.2 (validate_eq_ok_iff.1 hvalid).1
  obtain ⟨order', horder'⟩ :=
    WorldGraph.exists_topologicalOrder_iff.2 (validate_eq_ok_iff.1 hvalid').1
  have hinventory := game.inventory_compiled graph catalogue ds notFound world index
  have hinventory' := game.inventory_compiled graph' catalogue ds notFound world index
  cases hl : game.level? world index with
  | none =>
    rw [hl, Option.map_none, Option.map_eq_none_iff] at hinventory hinventory'
    rw [hinventory, hinventory']
    exact .none
  | some l =>
    rw [hl, Option.map_some] at hinventory hinventory'
    obtain ⟨lc, hlc, -⟩ := Option.map_eq_some_iff.1 hinventory
    obtain ⟨lc', hlc', -⟩ := Option.map_eq_some_iff.1 hinventory'
    rw [hlc, hlc']
    refine .some fun kind => ?_
    obtain ⟨l₀, hl₀, hlisted⟩ := exists_level_of_compiled hlc
    obtain ⟨l₀', hl₀', hlisted'⟩ := exists_level_of_compiled hlc'
    obtain rfl : l = l₀ := Option.some.inj (hl.symm.trans hl₀)
    obtain rfl : l = l₀' := Option.some.inj (hl.symm.trans hl₀')
    obtain ⟨info, hinfo⟩ :=
      Option.isSome_iff_exists.1 (hasKind_iff.1 (hkinds kind) world index l hl)
    obtain ⟨unlocked, fresh, hcomputed, hfresh, hunlocked⟩ :=
      exists_computedAt catalogue horder hvalid hl kind
    obtain ⟨unlocked', fresh', hcomputed', hfresh', hunlocked'⟩ :=
      exists_computedAt catalogue horder' hvalid' hl kind
    have hname : ∀ i ∈ catalogue.itemsOf kind, i.name ≠ "" := fun i hi =>
      (hkeyed kind i.name i (hkeyed.mem_itemsOf_iff.1 hi)).2.2
    have hinfoc := hlisted kind
    have hinfoc' := hlisted' kind
    rw [hinfo, Option.map_some] at hinfoc hinfoc'
    refine ⟨_, _, hinfoc, hinfoc', ?_⟩
    dsimp only
    rw [hcomputed, hcomputed']
    refine opened_sortComputed (fun i hi => ?_) (fun i hi hopen => ?_) _
    · rw [hfresh i.name (hname i hi), hfresh' i.name (hname i hi)]
    · rw [hunlocked i.name (hname i hi)] at hopen
      exact (hunlocked' i.name (hname i hi)).2 (hopen.extend hedge)

end Game

namespace Session

/-! ## Sessions -/

/-- A compiled session lists an item as open at a level if the item is registered and open there. -/
theorem unlockedAt_compile_iff {s : Session} (hkeyed : s.catalogue.Keyed)
    (hcompile : s.compile.failure = none) {kind : Kind} {world : String} {index : Int}
    {name : String} :
    s.compile.session.game.UnlockedAt kind world index name
      ↔ (s.compile.session.game.level? world index).isSome ∧ s.catalogue.contains kind name = true
        ∧ s.game.OpenAt s.graph kind world index name := by
  obtain ⟨hsome, hlevels⟩ := isAvailability_compile hkeyed hcompile world index
  constructor
  · intro h
    obtain ⟨l', info', i, hl', hinfo', hi, hname, hopen⟩ := h
    obtain ⟨l, hl⟩ := Option.isSome_iff_exists.1 (hsome ▸ Option.isSome_of_eq_some hl')
    obtain ⟨info, info'', -, hinfo'', havailable⟩ := hlevels l l' hl hl' kind
    obtain rfl := Option.some.inj (hinfo'.symm.trans hinfo'')
    refine ⟨Option.isSome_of_eq_some hl', ?_, ?_⟩
    · exact hname ▸ (havailable.mem_iff i.name).1 (List.mem_map_of_mem hi)
    · exact hname ▸ (havailable.locked_iff i hi).1 hopen
  · intro h
    obtain ⟨hlevel, hcontains, hopen⟩ := h
    obtain ⟨l', hl'⟩ := Option.isSome_iff_exists.1 hlevel
    obtain ⟨l, hl⟩ := Option.isSome_iff_exists.1 (hsome ▸ hlevel)
    obtain ⟨info, info', -, hinfo', havailable⟩ := hlevels l l' hl hl' kind
    obtain ⟨i, hi, rfl⟩ := List.mem_map.1 ((havailable.mem_iff name).2 hcontains)
    exact ⟨l', info', i, hl', hinfo', hi, rfl, (havailable.locked_iff i hi).2 hopen⟩

/-- A session that compiles still does with more edges between declared worlds, if no path leads
from a world to itself, and then its levels list the same items with more of them open. -/
theorem opened_compile {s : Session} (hkeyed : s.catalogue.Keyed)
    (hcompile : s.compile.failure = none) {graph' : WorldGraph}
    (hedge : ∀ u v, s.graph.Edge u v → graph'.Edge u v)
    (hdeclared : ∀ world ∈ graph'.worlds, world ∈ s.game.worlds.keys)
    (hacyclic : ∀ w, ¬ graph'.Path w w) :
    { s with graph := graph' : Session }.compile.failure = none
      ∧ ∀ world index, Option.Rel Level.Opened (s.compile.session.game.level? world index)
        ({ s with graph := graph' : Session }.compile.session.game.level? world index) := by
  obtain ⟨bundle, hok⟩ := failure_compile_eq_none_iff.1 hcompile
  have hobstacle : s.withdraw.game.obstacle s.graph = none := (Game.compile_ok hok).1
  obtain ⟨hvalid, hkinds⟩ := Game.obstacle_eq_none_iff.1 hobstacle
  -- The game is the same, so only what the graph has to do with it is to be looked at again.
  have hvalid' : s.withdraw.game.validate graph' = .ok () := by
    refine Game.validate_eq_ok_iff_contiguous.2 ⟨hacyclic, ?_, ?_⟩
    · have hkeys : s.withdraw.game.worlds.keys = s.game.worlds.keys :=
        OrderedMap.keys_map _ s.game.worlds
      rw [hkeys]
      exact hdeclared
    · exact (Game.validate_eq_ok_iff_contiguous.1 hvalid).2.2
  have hobstacle' : s.withdraw.game.obstacle graph' = none :=
    Game.obstacle_eq_none_iff.2 ⟨hvalid', hkinds⟩
  refine ⟨failure_compile_eq_none_iff.2 (Game.exists_compile_ok_iff.2 hobstacle'), ?_⟩
  intro world index
  rw [(game_compile s).1, (game_compile { s with graph := graph' }).1, compilation, compilation,
    Game.compile_of_no_obstacle hobstacle]
  show Option.Rel Level.Opened _ ((s.withdraw.game.compile graph' s.catalogue s.declarations
    s.settings.notFoundText).game.level? world index)
  rw [Game.compile_of_no_obstacle hobstacle']
  exact Game.opened_compiled (hkeyed.withStatement _ _) hvalid hvalid' hkinds hedge _ _ _ _

/-- **What is open stays open.** In a session that compiles, whatever was done before, an item that
is open at a level is open at the later levels of its world, and at all levels of the worlds that a
path leads to. With more edges between declared worlds, if no path leads from a world to itself, the
same session compiles as well; all its levels list the same items in the same order, and what was
open at a level is open there, while nothing else about an item has changed. -/
theorem open_stays_open (settings : Settings) (ds : Declarations) (cs : List Command)
    (hcompile : ((start settings ds).after cs).compile.failure = none) :
    let s := (start settings ds).after cs
    let t := s.compile.session
    (∀ kind u i name, t.game.UnlockedAt kind u i name →
        ∀ v j, v = u ∧ i ≤ j ∨ s.graph.Path u v → (t.game.level? v j).isSome →
          t.game.UnlockedAt kind v j name)
      ∧ ∀ graph' : WorldGraph, (∀ u v, s.graph.Edge u v → graph'.Edge u v) →
        (∀ world ∈ graph'.worlds, world ∈ s.game.worlds.keys) → (∀ w, ¬ graph'.Path w w) →
          { s with graph := graph' : Session }.compile.failure = none
            ∧ ∀ world index, Option.Rel Level.Opened (t.game.level? world index)
              ({ s with graph := graph' : Session }.compile.session.game.level? world index) := by
  intro s t
  have hkeyed : s.catalogue.Keyed := keyed_after settings ds cs
  constructor
  · intro kind u i name hunlocked v j hwhere hlevel
    obtain ⟨-, hcontains, hopen⟩ := (unlockedAt_compile_iff hkeyed hcompile).1 hunlocked
    refine (unlockedAt_compile_iff hkeyed hcompile).2 ⟨hlevel, hcontains, ?_⟩
    rcases hwhere with ⟨rfl, hle⟩ | hpath
    · exact hopen.later hle
    · exact hopen.along hpath j
  · intro graph' hedge hdeclared hacyclic
    exact opened_compile hkeyed hcompile hedge hdeclared hacyclic

def worldU : Identifier := ⟨"U", by decide⟩

/-- A lemma is stated on the way to another world, and a third world lies apart. -/
def lemmaOnTheWay : List Command := [
  .directive (.addWorld worldU),
  .directive (.setLevelIndex 1),
  .directive (.addWorld worldV),
  .directive (.setLevelIndex 1),
  .directive (.addWorld worldW),
  .directive (.setLevelIndex 1),
  .directive (.declareStatement (plainExercise (some "foo") propP)),
  .directive (.setLevelIndex 2),
  .directive (.addPath "W" "V")]

/-- The lemma is open at the next level and beyond the path, and the third world can be put at the
end of the way. -/
theorem open_lemmaOnTheWay :
    let s := (start .standard .empty).after lemmaOnTheWay
    s.compile.failure = none
      ∧ s.compile.session.game.UnlockedAt .lemmas "W" 2 "foo"
      ∧ s.compile.session.game.UnlockedAt .lemmas "V" 1 "foo"
      ∧ { s with graph := s.graph.addEdge "V" "U" : Session }.compile.failure = none := by
  intro s
  have hcompile : s.compile.failure = none := by decide +kernel
  obtain ⟨hstays, hmore⟩ := open_stays_open .standard .empty lemmaOnTheWay hcompile
  have hunlocked : s.compile.session.game.UnlockedAt .lemmas "W" 2 "foo" := by
    have hlisted : ((s.compile.session.game.level? "W" 2).bind (·.inventory.get? .lemmas)).map
        (·.computed.find? fun i => i.name = "foo" ∧ i.locked = false)
          = some (some ⟨"foo", "foo", "General", false, false, true⟩) := by decide +kernel
    obtain ⟨info, hinfo, hfind⟩ := Option.map_eq_some_iff.1 hlisted
    obtain ⟨l, hl, hinfo⟩ := Option.bind_eq_some_iff.1 hinfo
    exact ⟨l, info, _, hl, hinfo, List.mem_of_find?_eq_some hfind, rfl, rfl⟩
  have hedge : s.graph.Edge "W" "V" := by
    unfold WorldGraph.Edge
    decide +kernel
  refine ⟨hcompile, hunlocked, ?_, ?_⟩
  · exact hstays .lemmas "W" 2 "foo" hunlocked "V" 1 (.inr (.single hedge)) (by decide +kernel)
  · refine (hmore (s.graph.addEdge "V" "U") (fun u v h => ?_) ?_ ?_).1
    · show (u, v) ∈ appendNew ("V", "U") s.graph.edges
      exact mem_appendNew.2 (.inl h)
    · decide +kernel
    · exact WorldGraph.findCycle_eq_nil_iff.1 (by decide +kernel)

end Session
end Curriculum
