import Curriculum.Proofs.Availability.Cleared
import Curriculum.Proofs.Availability.Walk

/-!
# What compiling writes

Compiling a game changes its levels, each by itself: `compileKinds_of_hasKind`
says that availability is computed for all kinds as if for each of them alone,
because what is written for one kind is not read for the next
(`Game.computedAt_cleared`). Two descriptions of a compilation follow.
`Game.compile_ok` says what there is if a game compiles, level by level.
`Game.compile_cleared` says that a game that is cleared of what earlier
compilations wrote fails to compile for the same reason, or compiles to the very
same result.
-/

namespace Curriculum

/-! ## Warnings -/

/-- A warning is about each lemma of the catalogue that is not declared. -/
theorem mem_undeclaredLemmas_iff {ds : Declarations} {game : String} {c : Catalogue} {m : Message} :
    m ∈ undeclaredLemmas ds game c
      ↔ ∃ i ∈ c.itemsOf .lemmas, ds.rendered? i.name = none
        ∧ m = (Remark.undeclaredLemma i.name).message .compiling ⟨some game, none, none⟩ := by
  rw [undeclaredLemmas, List.mem_filterMap]
  refine exists_congr fun i => and_congr_right fun _ => ?_
  cases ds.rendered? i.name with
  | none => simp [eq_comm]
  | some shown => simp

/-- A warning is about the statement of a level if it is not declared. -/
theorem Level.mem_previewWarning_iff {ds : Declarations} {game world : String} {l : Level}
    {m : Message} :
    m ∈ l.previewWarning ds game world
      ↔ ∃ st, l.statement = some st ∧ ds.rendered? st.theoremName = none
        ∧ m = (Remark.undeclaredStatement st.theoremName).message .compiling
          ⟨some game, some world, some l.index⟩ := by
  rw [previewWarning]
  cases l.statement with
  | none => simp
  | some st => cases hshown : ds.rendered? st.theoremName <;> simp [hshown]

/-! ## What is computed -/

/-- What is computed for a kind at the level of a number. -/
def World.computedAt (w : World) (kind : Kind) (items : List Item) (entry : List String)
    (index : Int) : List ComputedItem :=
  ((w.numbers.zip (walkLevels kind items entry [] w.orderedLevels)).lookup index).getD []

namespace Game

/-- What is computed for a kind at a level of a game. -/
def computedAt (game : Game) (graph : WorldGraph) (catalogue : Catalogue) (world : String)
    (index : Int) (kind : Kind) : List ComputedItem :=
  match game.worlds.get? world with
  | some w => w.computedAt kind (catalogue.itemsOf kind) (game.entryOf graph kind world) index
  | none => []

variable {game : Game} {graph : WorldGraph} {catalogue : Catalogue}

/-- What is computed depends on what levels list. -/
theorem computedAt_mapLevels {F : Level → Level} (hF : KeepsListings F) (game : Game)
    (graph : WorldGraph) (catalogue : Catalogue) :
    (game.mapLevels F).computedAt graph catalogue = game.computedAt graph catalogue := by
  funext world index kind
  rw [computedAt, computedAt, hF.entryOf, get?_worlds_mapLevels]
  cases game.worlds.get? world with
  | none => rfl
  | some w =>
    simp only [Option.map_some, World.computedAt, World.numbers_mapLevels,
      World.orderedLevels_mapLevels, hF.walkLevels]

theorem computedAt_cleared (game : Game) (graph : WorldGraph) (catalogue : Catalogue) :
    game.cleared.computedAt graph catalogue = game.computedAt graph catalogue :=
  computedAt_mapLevels keepsListings_cleared game graph catalogue

/-- Games that are the same once they are cleared have the same computed. -/
theorem computedAt_congr {game' : Game} (h : game'.cleared = game.cleared) :
    game'.computedAt graph catalogue = game.computedAt graph catalogue := by
  rw [← computedAt_cleared, h, computedAt_cleared]

/-! ## Kind by kind -/

/-- Every level of a world has its place in the walk. -/
theorem isSome_lookup_walkLevels {w : World} {index : Int} {l : Level}
    (hl : w.levels.get? index = some l) (kind : Kind) (items : List Item) (entry : List String) :
    ((w.numbers.zip (walkLevels kind items entry [] w.orderedLevels)).lookup index).isSome := by
  have hsome : ∀ j ∈ w.numbers, (w.levels.get? j).isSome := fun j hj =>
    Option.isSome_iff_exists.2 (World.mem_numbers_iff.1 hj)
  obtain ⟨before, rest, hnumbers, hnotin⟩ :=
    List.eq_append_cons_of_mem (World.mem_numbers_iff.2 ⟨l, hl⟩)
  rw [World.orderedLevels, hnumbers, lookup_walkLevels kind items entry [] rest ?_ hnotin hl]
  · rfl
  · intro j hj
    exact hsome j (hnumbers ▸ List.mem_append_left _ hj)

/-- Computing a kind writes to every level what is computed for it. -/
theorem compileKind_eq_mapLevelsAt (game : Game) (graph : WorldGraph) (catalogue : Catalogue)
    (kind : Kind) :
    game.compileKind graph catalogue kind = game.mapLevelsAt fun world index l =>
      l.setComputed kind (game.computedAt graph catalogue world index kind) := by
  rw [compileKind, mapLevelsAt, OrderedMap.mapWithKey_congr]
  intro world w hw
  rw [World.compileKind, World.mapLevelsAt]
  rw [OrderedMap.mapWithKey_congr]
  intro index l hl
  -- The walk covers the level, so neither side falls back on an empty list.
  obtain ⟨computed, hcomputed⟩ := Option.isSome_iff_exists.1
    (isSome_lookup_walkLevels hl kind (catalogue.itemsOf kind) (game.entryOf graph kind world))
  simp only [computedAt, hw, World.computedAt, hcomputed, Option.getD_some]

/-- Computing a kind cannot be seen by what does not see what is computed. -/
theorem mapLevels_compileKind {F : Level → Level}
    (h : ∀ l kind computed, F (l.setComputed kind computed) = F l) (game : Game)
    (graph : WorldGraph) (catalogue : Catalogue) (kind : Kind) :
    (game.compileKind graph catalogue kind).mapLevels F = game.mapLevels F := by
  rw [compileKind_eq_mapLevelsAt, mapLevels_mapLevelsAt fun world index l => h l kind _]

theorem cleared_compileKind (game : Game) (graph : WorldGraph) (catalogue : Catalogue)
    (kind : Kind) : (game.compileKind graph catalogue kind).cleared = game.cleared :=
  mapLevels_compileKind Level.cleared_setComputed game graph catalogue kind

theorem hasKind_compileKind (game : Game) (graph : WorldGraph) (catalogue : Catalogue)
    (kind kind' : Kind) :
    (game.compileKind graph catalogue kind).hasKind kind' = game.hasKind kind' := by
  rw [← hasKind_cleared, cleared_compileKind, hasKind_cleared]

/-- Computing kinds fails at the first kind that some level lacks. -/
theorem compileKinds_failure (graph : WorldGraph) (catalogue : Catalogue) (kinds : List Kind)
    (game : Game) :
    (compileKinds graph catalogue kinds game).2
      = (kinds.find? fun kind => !game.hasKind kind).map .missingKind := by
  induction kinds generalizing game with
  | nil => rfl
  | cons kind kinds ih =>
    rw [compileKinds, List.find?_cons]
    cases hkind : game.hasKind kind with
    | true => simp only [if_true, ih, hasKind_compileKind, Bool.not_true]
    | false => rfl

theorem mapLevels_compileKinds {F : Level → Level}
    (h : ∀ l kind computed, F (l.setComputed kind computed) = F l) (graph : WorldGraph)
    (catalogue : Catalogue) (kinds : List Kind) (game : Game) :
    (compileKinds graph catalogue kinds game).1.mapLevels F = game.mapLevels F := by
  induction kinds generalizing game with
  | nil => rfl
  | cons kind kinds ih =>
    unfold compileKinds
    split
    · rw [ih, mapLevels_compileKind h]
    · rfl

/-- Computing kinds, none of which is lacking, writes for each of them what is computed for it
alone. -/
theorem compileKinds_of_hasKind {kinds : List Kind} (h : ∀ kind ∈ kinds, game.hasKind kind = true) :
    compileKinds graph catalogue kinds game
      = (game.mapLevelsAt fun world index =>
          Level.setComputeds (game.computedAt graph catalogue world index) kinds, none) := by
  induction kinds generalizing game with
  | nil => rw [compileKinds]; exact congrArg (·, none) game.mapLevelsAt_id.symm
  | cons kind kinds ih =>
    have hrest : ∀ k ∈ kinds, (game.compileKind graph catalogue kind).hasKind k = true :=
      fun k hk => (hasKind_compileKind ..).trans (h k (List.mem_cons_of_mem _ hk))
    -- What was written for `kind` is not read for the others: they are computed as in `game`.
    rw [compileKinds, if_pos (h kind List.mem_cons_self), ih hrest,
      computedAt_congr (cleared_compileKind ..), compileKind_eq_mapLevelsAt,
      mapLevelsAt_mapLevelsAt]
    rfl

/-! ## Previews -/

/-- The levels of a world are previewed with the identifier of the world. -/
theorem level?_withPreviews (game : Game) (ds : Declarations) (notFound world : String)
    (index : Int) :
    ∃ id, (∀ w, game.worlds.get? world = some w → w.id = id)
      ∧ (game.withPreviews ds notFound).level? world index
        = (game.level? world index).map (·.withPreview ds notFound game.name id) := by
  simp only [level?, withPreviews, OrderedMap.get?_map]
  cases game.worlds.get? world with
  | none => exact ⟨"", by simp, rfl⟩
  | some w => exact ⟨w.id, by simp, OrderedMap.get?_map _ w.levels index⟩

/-- Changes of levels that have the same outcome once the levels are previewed. -/
theorem withPreviews_congr {ds : Declarations} {notFound : String}
    {f f' : String → Int → Level → Level}
    (h : ∀ name id world index l,
      (f world index l).withPreview ds notFound name id
        = (f' world index l).withPreview ds notFound name id) :
    (game.mapLevelsAt f).withPreviews ds notFound
      = (game.mapLevelsAt f').withPreviews ds notFound := by
  simp only [withPreviews, mapLevelsAt, OrderedMap.map_eq_mapWithKey,
    OrderedMap.mapWithKey_mapWithKey, World.mapLevels_eq_mapLevelsAt,
    World.mapLevelsAt_mapLevelsAt, h]
  rfl

/-- Previews cannot be seen by what does not see the preview of a level. -/
theorem mapLevels_withPreviews {F : Level → Level} {ds : Declarations} {notFound : String}
    (h : ∀ name id l, F (l.withPreview ds notFound name id) = F l) (game : Game) :
    (game.withPreviews ds notFound).mapLevels F = game.mapLevels F := by
  simp only [withPreviews, mapLevels, World.mapLevels, OrderedMap.map_eq_mapWithKey,
    OrderedMap.mapWithKey_mapWithKey, h]

/-- What is computed for all kinds and previewed is the same in a cleared game. -/
theorem withPreviews_setComputeds_cleared (game : Game)
    (computed : String → Int → Kind → List ComputedItem) (ds : Declarations) (notFound : String) :
    (game.cleared.mapLevelsAt fun world index =>
        Level.setComputeds (computed world index) Kind.all).withPreviews ds notFound
      = (game.mapLevelsAt fun world index =>
        Level.setComputeds (computed world index) Kind.all).withPreviews ds notFound := by
  rw [cleared, mapLevels_eq_mapLevelsAt, mapLevelsAt_mapLevelsAt]
  exact withPreviews_congr fun name id world index l =>
    Level.withPreview_setComputeds_cleared _ ds notFound name id l

/-! ## A whole compilation -/

/-- What stands in the way of computing availability, if anything does. -/
def obstacle (game : Game) (graph : WorldGraph) : Option Failure :=
  match game.validate graph with
  | .error failure => some failure
  | .ok () => (Kind.all.find? fun kind => !game.hasKind kind).map .missingKind

theorem obstacle_cleared (game : Game) (graph : WorldGraph) :
    game.cleared.obstacle graph = game.obstacle graph := by
  simp only [obstacle, validate_cleared, hasKind_cleared]

theorem obstacle_eq_none_iff :
    game.obstacle graph = none
      ↔ game.validate graph = .ok () ∧ ∀ kind, game.hasKind kind = true := by
  unfold obstacle
  split
  · next failure h => simp [h]
  · next h => simp [h, Kind.mem_all]

/-- The game that compiling leaves if nothing stands in its way. -/
def compiled (game : Game) (graph : WorldGraph) (catalogue : Catalogue) (ds : Declarations)
    (notFound : String) : Game :=
  (game.mapLevelsAt fun world index =>
    Level.setComputeds (game.computedAt graph catalogue world index) Kind.all).withPreviews ds
      notFound

/-- What is listed at a level of the game that compiling leaves. -/
theorem inventory_compiled (game : Game) (graph : WorldGraph) (catalogue : Catalogue)
    (ds : Declarations) (notFound world : String) (index : Int) :
    ((game.compiled graph catalogue ds notFound).level? world index).map (·.inventory)
      = (game.level? world index).map fun l =>
          (l.setComputeds (game.computedAt graph catalogue world index) Kind.all).inventory := by
  obtain ⟨id, -, hlevel⟩ := level?_withPreviews (game.mapLevelsAt fun world index =>
    Level.setComputeds (game.computedAt graph catalogue world index) Kind.all) ds notFound world
      index
  rw [compiled, hlevel, level?_mapLevelsAt, Option.map_map, Option.map_map]
  rfl

/-- A level of the game that compiling leaves was there before. For every kind it lists what was
declared and what is computed for the kind. -/
theorem exists_level_of_compiled {ds : Declarations} {notFound world : String} {index : Int}
    {l' : Level} (hl' : (game.compiled graph catalogue ds notFound).level? world index = some l') :
    ∃ l, game.level? world index = some l
      ∧ ∀ kind, l'.inventory.get? kind
        = (l.inventory.get? kind).map fun info =>
            { info with computed := game.computedAt graph catalogue world index kind } := by
  have hinventory := game.inventory_compiled graph catalogue ds notFound world index
  rw [hl', Option.map_some] at hinventory
  obtain ⟨l, hl, heq⟩ := Option.map_eq_some_iff.1 hinventory.symm
  refine ⟨l, hl, fun kind => ?_⟩
  rw [← heq, Level.get?_setComputeds, if_pos kind.mem_all]

/-- Compiling fails with what stands in its way. -/
theorem compile_of_obstacle {failure : Failure} (h : game.obstacle graph = some failure)
    (ds : Declarations) (notFound : String) :
    (game.compile graph catalogue ds notFound).result = .error failure := by
  unfold obstacle at h
  unfold compile
  cases hvalid : game.validate graph with
  | error failure' =>
    rw [hvalid] at h
    exact congrArg Except.error (Option.some.inj h)
  | ok u =>
    rw [hvalid] at h
    replace h := (compileKinds_failure graph (catalogue.mapItems (·.withStatement ds notFound))
      Kind.all game).trans h
    dsimp only
    generalize compileKinds graph (catalogue.mapItems (·.withStatement ds notFound)) Kind.all game
      = computed at h ⊢
    obtain ⟨game', failure'⟩ := computed
    cases h
    rfl

/-- What compiling leaves if nothing stands in its way: all levels computed and previewed, and a
bundle unless the worlds have no order. -/
theorem compile_of_no_obstacle (h : game.obstacle graph = none) (ds : Declarations)
    (notFound : String) :
    game.compile graph catalogue ds notFound
      = { game := game.compiled graph (catalogue.mapItems (·.withStatement ds notFound)) ds notFound
          catalogue := catalogue.mapItems (·.withStatement ds notFound)
          messages := undeclaredLemmas ds game.name catalogue ++ game.previewWarnings ds
          result :=
            (game.compiled graph (catalogue.mapItems (·.withStatement ds notFound)) ds
              notFound).bundle graph (catalogue.mapItems (·.withStatement ds notFound)) } := by
  obtain ⟨hvalid, hkinds⟩ := obstacle_eq_none_iff.1 h
  have hcleared : (compileKinds graph (catalogue.mapItems (·.withStatement ds notFound)) Kind.all
      game).1.cleared = game.cleared := mapLevels_compileKinds Level.cleared_setComputed ..
  rw [compile, hvalid]
  dsimp only
  rw [compileKinds_of_hasKind fun kind _ => hkinds kind] at hcleared ⊢
  dsimp only at hcleared ⊢
  -- Warnings are collected after computing, but they are those of the game before it.
  rw [← previewWarnings_cleared, hcleared, previewWarnings_cleared]
  rfl

/-- A game compiles if nothing stands in the way and its worlds have a play order. -/
theorem compile_ok {ds : Declarations} {notFound : String} {bundle : Bundle}
    (h : (game.compile graph catalogue ds notFound).result = .ok bundle) :
    game.obstacle graph = none ∧ ∃ order, graph.topologicalOrder = some order := by
  cases hobstacle : game.obstacle graph with
  | some failure =>
    rw [compile_of_obstacle hobstacle] at h
    exact absurd h (by simp)
  | none =>
    refine ⟨rfl, ?_⟩
    cases horder : graph.topologicalOrder with
    | some order => exact ⟨order, rfl⟩
    | none =>
      rw [compile_of_no_obstacle hobstacle] at h
      simp [Game.bundle, WorldGraph.map?, horder] at h

/-- The bundle is that of the game and the catalogue that are left. -/
theorem bundle_of_compile_ok {ds : Declarations} {notFound : String} {bundle : Bundle}
    (h : (game.compile graph catalogue ds notFound).result = .ok bundle) :
    (game.compile graph catalogue ds notFound).game.bundle graph
        (game.compile graph catalogue ds notFound).catalogue
      = .ok bundle := by
  have hobstacle := (compile_ok h).1
  rw [compile_of_no_obstacle hobstacle] at h ⊢
  exact h

/-! ## Compiling again -/

theorem compiled_cleared (game : Game) (graph : WorldGraph) (catalogue : Catalogue)
    (ds : Declarations) (notFound : String) :
    game.cleared.compiled graph catalogue ds notFound
      = game.compiled graph catalogue ds notFound := by
  rw [compiled, compiled, computedAt_cleared, withPreviews_setComputeds_cleared]

/-- **Compiling again.** A game that is cleared compiles to the same as before, or fails for the
same reason. -/
theorem compile_cleared (game : Game) (graph : WorldGraph) (catalogue : Catalogue)
    (ds : Declarations) (notFound : String) :
    (∃ failure, (game.compile graph catalogue ds notFound).result = .error failure
        ∧ (game.cleared.compile graph catalogue.cleared ds notFound).result = .error failure)
      ∨ game.cleared.compile graph catalogue.cleared ds notFound
        = game.compile graph catalogue ds notFound := by
  cases h : game.obstacle graph with
  | some failure =>
    refine .inl ⟨failure, compile_of_obstacle h ds notFound, compile_of_obstacle ?_ ds notFound⟩
    rw [obstacle_cleared, h]
  | none =>
    refine .inr ?_
    rw [compile_of_no_obstacle h, compile_of_no_obstacle ((obstacle_cleared game graph).trans h),
      Catalogue.withStatement_cleared, compiled_cleared, previewWarnings_cleared,
      undeclaredLemmas_cleared]
    rfl

/-- Compiling cannot be seen by what sees neither what is computed nor the preview of a level. -/
theorem mapLevels_compile {F : Level → Level} {ds : Declarations} {notFound : String}
    (hcomputed : ∀ l kind computed, F (l.setComputed kind computed) = F l)
    (hpreview : ∀ name id l, F (l.withPreview ds notFound name id) = F l) (game : Game)
    (graph : WorldGraph) (catalogue : Catalogue) :
    (game.compile graph catalogue ds notFound).game.mapLevels F = game.mapLevels F := by
  have hkinds := mapLevels_compileKinds hcomputed graph
    (catalogue.mapItems (·.withStatement ds notFound)) Kind.all game
  unfold compile
  split
  · rfl
  · dsimp only
    split
    · next heq =>
      rw [heq] at hkinds
      exact hkinds
    · next heq =>
      rw [heq] at hkinds
      exact (mapLevels_withPreviews hpreview _).trans hkinds

theorem cleared_catalogue_compile (game : Game) (graph : WorldGraph) (catalogue : Catalogue)
    (ds : Declarations) (notFound : String) :
    (game.compile graph catalogue ds notFound).catalogue.cleared = catalogue.cleared := by
  unfold compile
  split
  · rfl
  · dsimp only
    split <;> exact catalogue.cleared_withStatement ds notFound

end Game
end Curriculum
