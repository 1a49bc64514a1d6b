import Curriculum.Proofs.Availability.Compiling
import Curriculum.Proofs.WorldGraph.Cycles

/-!
# When a game compiles

A game compiles if nothing stands in its way: worlds without cycles always have
a play order, so the order that the bundle asks for is there. `obstacle_eq_none`
spells out what may stand in the way, and `exists_compile_ok_iff` says that
there is nothing else. A compilation that fails therefore has written nothing
but computed items (`mapLevels_compile_of_obstacle`), and one that succeeds has
written to each level what `level?_compiled` says.

The warnings about previews are collected over the whole game, in the order of
the worlds and of the numbers of their levels. `filter_previewWarnings` picks
from them what is about one level.
-/

namespace Curriculum

namespace Location

/-- Whether a place is at a level of a world, whatever the game is called. -/
def isAt (world : String) (index : Int) (l : Location) : Bool :=
  l.world = some world ∧ l.level = some index

theorem isAt_iff {world : String} {index : Int} {l : Location} :
    l.isAt world index = true ↔ l.world = some world ∧ l.level = some index := decide_eq_true_iff

end Location

namespace Game

variable {game : Game} {graph : WorldGraph} {catalogue : Catalogue}

theorem find?_worlds_eq_none_iff :
    (graph.worlds.find? fun world => !game.worlds.contains world) = none
      ↔ ∀ world ∈ graph.worlds, (game.worlds.get? world).isSome := by
  simp only [List.find?_eq_none, OrderedMap.contains_eq_isSome, Bool.not_eq_true',
    Bool.not_eq_false]

theorem find?_numbers_eq_none_iff :
    (game.worlds.values.find? fun w => w.numbers ≠ numbersTo w.numbers.length) = none
      ↔ ∀ world w, game.worlds.get? world = some w → w.numbers = numbersTo w.numbers.length := by
  simp only [List.find?_eq_none, OrderedMap.mem_values_iff, decide_eq_true_eq, ne_eq,
    Decidable.not_not, forall_exists_index]
  exact forall_comm

/-- A game passes if its worlds are not in a circle, all worlds of the graph are there, and the
levels of each world are numbered from one on. -/
theorem validate_eq_ok_iff :
    game.validate graph = .ok ()
      ↔ graph.findCycle = []
        ∧ (∀ world ∈ graph.worlds, (game.worlds.get? world).isSome)
        ∧ ∀ world w, game.worlds.get? world = some w → w.numbers = numbersTo w.numbers.length := by
  rw [← find?_worlds_eq_none_iff, ← find?_numbers_eq_none_iff, ← WorldGraph.validate_eq_ok_iff,
    validate]
  cases graph.validate with
  | error failure => simp
  | ok u =>
    cases hworld : graph.worlds.find? fun world => !game.worlds.contains world with
    | some world => simp
    | none =>
      cases hgap : game.worlds.values.find? fun w => w.numbers ≠ numbersTo w.numbers.length with
      | some w => simp
      | none => simp

/-- A game compiles exactly if nothing stands in its way. -/
theorem exists_compile_ok_iff {ds : Declarations} {notFound : String} :
    (∃ bundle, (game.compile graph catalogue ds notFound).result = .ok bundle)
      ↔ game.obstacle graph = none := by
  constructor
  · intro h
    obtain ⟨bundle, h⟩ := h
    exact (compile_ok h).1
  · intro h
    have hcycle : graph.findCycle = [] :=
      (validate_eq_ok_iff.1 (obstacle_eq_none_iff.1 h).1).1
    obtain ⟨order, horder⟩ := WorldGraph.exists_topologicalOrder_iff.2 hcycle
    rw [compile_of_no_obstacle h, bundle, WorldGraph.map?, horder]
    exact ⟨_, rfl⟩

/-- What is handed on of the catalogue are all its items. -/
theorem inventory_of_bundle {bundle : Bundle} (h : game.bundle graph catalogue = .ok bundle) :
    bundle.inventory = catalogue.items := by
  unfold Game.bundle at h
  split at h
  · exact absurd h (by simp)
  · rw [← Except.ok.inj h]

/-- A game that does not compile has changed in nothing but what is computed. -/
theorem mapLevels_compile_of_obstacle {F : Level → Level}
    (hF : ∀ l kind computed, F (l.setComputed kind computed) = F l) {failure : Failure}
    (h : game.obstacle graph = some failure) (ds : Declarations) (notFound : String) :
    (game.compile graph catalogue ds notFound).game.mapLevels F = game.mapLevels F := by
  have hkinds := mapLevels_compileKinds hF graph (catalogue.mapItems (·.withStatement ds notFound))
    Kind.all game
  have hfailure := compileKinds_failure graph (catalogue.mapItems (·.withStatement ds notFound))
    Kind.all game
  unfold obstacle at h
  unfold compile
  cases hvalid : game.validate graph with
  | error failure' => rfl
  | ok u =>
    rw [hvalid] at h
    dsimp only at h ⊢
    rw [h] at hfailure
    -- Some kind is lacking, so no previews are looked up.
    split
    · next heq =>
      rw [heq] at hkinds
      exact hkinds
    · next heq =>
      rw [heq] at hfailure
      exact absurd hfailure (by simp)

/-- What compiling has written to a level if nothing stands in its way. -/
theorem level?_compiled (hplaced : game.Placed) (graph : WorldGraph) (catalogue : Catalogue)
    (ds : Declarations) (notFound world : String) (index : Int) :
    (game.compiled graph catalogue ds notFound).level? world index
      = (game.level? world index).map fun l =>
          (l.setComputeds (game.computedAt graph catalogue world index) Kind.all).withPreview ds
            notFound game.name world := by
  obtain ⟨id, hid, hlevel⟩ := level?_withPreviews (game.mapLevelsAt fun world index =>
    Level.setComputeds (game.computedAt graph catalogue world index) Kind.all) ds notFound world
      index
  rw [compiled, hlevel, level?_mapLevelsAt, Option.map_map]
  cases hw : game.worlds.get? world with
  | none => simp [level?, hw]
  | some w =>
    have hworld : id = world := by
      rw [← hplaced.world_id world w hw]
      have hget := OrderedMap.get?_mapWithKey (fun world w => w.mapLevelsAt fun index =>
        Level.setComputeds (game.computedAt graph catalogue world index) Kind.all) game.worlds world
      rw [hw, Option.map_some] at hget
      exact (hid _ hget).symm
    rw [hworld]
    rfl

/-! ## Warnings about one level -/

/-- Of the warnings about the previews of a world, a level has its own. -/
theorem filter_previewWarning {ds : Declarations} {name world world' : String} {l : Level}
    {index : Int} :
    (l.previewWarning ds name world').filter (·.location.isAt world index)
      = if world' = world ∧ l.index = index then l.previewWarning ds name world' else [] := by
  have hlocation : ∀ m ∈ l.previewWarning ds name world',
      m.location.isAt world index = true ↔ world' = world ∧ l.index = index := by
    intro m hm
    obtain ⟨st, -, -, rfl⟩ := Level.mem_previewWarning_iff.1 hm
    rw [Location.isAt_iff]
    simp only [Remark.message, Option.some.injEq]
  split
  · next h => exact List.filter_eq_self.2 fun m hm => (hlocation m hm).2 h
  · next h => exact List.filter_eq_nil_iff.2 fun m hm hat => h ((hlocation m hm).1 hat)

/-- Of the warnings about the previews of a game, a level has its own. -/
theorem filter_previewWarnings (hplaced : game.Placed) (ds : Declarations) (world : String)
    (index : Int) :
    (game.previewWarnings ds).filter (·.location.isAt world index)
      = (game.level? world index).elim [] (·.previewWarning ds game.name world) := by
  have hother : ∀ world' w, game.worlds.get? world' = some w → world' ≠ world →
      w.orderedLevels.flatMap (fun l =>
        if w.id = world ∧ l.index = index then l.previewWarning ds game.name w.id else []) = [] := by
    intro world' w hw hne
    have hid : w.id ≠ world := fun h => hne ((hplaced.world_id world' w hw).symm.trans h)
    exact List.flatMap_eq_nil_iff.2 fun l _ => if_neg fun h => hid h.1
  simp only [previewWarnings, List.filter_flatMap, filter_previewWarning]
  rw [OrderedMap.values_eq_filterMap_keys,
    OrderedMap.flatMap_filterMap_get? hother game.worlds.nodup_keys Iff.rfl, level?]
  cases hw : game.worlds.get? world with
  | none => rfl
  | some w =>
    have hindex : ∀ index l, w.levels.get? index = some l → l.index = index := fun index l hl =>
      (hplaced.level_place world index l (level?_eq_some_iff.2 ⟨w, hw, hl⟩)).2
    have hother : ∀ index' l, w.levels.get? index' = some l → index' ≠ index →
        (if w.id = world ∧ l.index = index then l.previewWarning ds game.name w.id else []) = [] :=
      fun index' l hl hne => if_neg fun h => hne ((hindex index' l hl).symm.trans h.2)
    have hnumbers : index ∈ w.numbers ↔ index ∈ w.levels.keys := mem_sortBy
    rw [Option.elim_some, World.orderedLevels,
      OrderedMap.flatMap_filterMap_get? hother w.nodup_numbers hnumbers, Option.bind_some]
    cases hl : w.levels.get? index with
    | none => rfl
    | some l => simp only [Option.elim_some, hplaced.world_id world w hw, hindex index l hl,
        and_self, if_true]

end Game
end Curriculum
