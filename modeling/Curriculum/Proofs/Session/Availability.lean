import Curriculum.Proofs.Availability.Outcome
import Curriculum.Proofs.Catalogue
import Curriculum.Proofs.Session.Compile

/-!
# What a compiled session says of every item

The catalogue of a session is keyed by kinds and names, whatever was done to it
(`keyed_after`), so a compiled level lists every registered item once. What it
says of an item is put in terms of the game as it was authored: which levels
declare a name new and which state it, and which worlds a path leads from.

Main statement: `availability_of_compile`. It holds of every session that can be
reached, and of all worlds, levels and kinds of it.
-/

namespace Curriculum

/-! ## The game as it was authored -/

namespace Game

/-- A level of a game declares a name new. -/
def introducesAt (game : Game) (kind : Kind) (world : String) (index : Int) (name : String) :
    Prop :=
  ∃ l, game.level? world index = some l ∧ name ∈ (l.info kind).new

/-- A level of a game has a statement of a name. -/
def statesAt (game : Game) (world : String) (index : Int) (name : String) : Prop :=
  ∃ l st, game.level? world index = some l ∧ l.statement = some st ∧ st.name = some name

/-- A name is open at a level: some level of a world from which a path leads declares it new or
states it, or a level of this world does, which is not a later one for what is declared new, and an
earlier one for what is stated. -/
def OpenAt (game : Game) (graph : WorldGraph) (kind : Kind) (world : String) (index : Int)
    (name : String) : Prop :=
  (∃ u, graph.Path u world ∧ ∃ j, game.introducesAt kind u j name
      ∨ kind = .lemmas ∧ game.statesAt u j name)
    ∨ (∃ j ≤ index, game.introducesAt kind world j name)
    ∨ kind = .lemmas ∧ ∃ j < index, game.statesAt world j name

/-- A name is new at a level: the level declares it new, or the level before states it. -/
def NewAt (game : Game) (kind : Kind) (world : String) (index : Int) (name : String) : Prop :=
  game.introducesAt kind world index name
    ∨ kind = .lemmas ∧ 1 < index ∧ game.statesAt world (index - 1) name

variable {game : Game} {world : String} {w : World}

theorem introducesAt_iff (hw : game.worlds.get? world = some w) {kind : Kind} {index : Int}
    {name : String} : game.introducesAt kind world index name ↔ w.introducesAt kind index name := by
  simp only [introducesAt, World.introducesAt, level?, hw, Option.bind_some]

theorem statesAt_iff (hw : game.worlds.get? world = some w) {index : Int} {name : String} :
    game.statesAt world index name ↔ w.statesAt index name := by
  simp only [statesAt, World.statesAt, level?, hw, Option.bind_some]

/-- A level that introduces something is in a world that is there. -/
theorem exists_world_introducesAt {kind : Kind} {index : Int} {name : String} :
    (∃ w, game.worlds.get? world = some w
        ∧ (w.introducesAt kind index name ∨ kind = .lemmas ∧ w.statesAt index name))
      ↔ game.introducesAt kind world index name
        ∨ kind = .lemmas ∧ game.statesAt world index name := by
  cases hw : game.worlds.get? world with
  | none => simp [introducesAt, statesAt, level?, hw]
  | some w => simp [introducesAt_iff hw, statesAt_iff hw]

/-- Changing levels makes no difference to what is declared new if it leaves the declarations. -/
theorem introducesAt_mapLevels {F : Level → Level} (h : ∀ l, (F l).inventory = l.inventory)
    (game : Game) : (game.mapLevels F).introducesAt = game.introducesAt := by
  funext kind world index name
  simp [introducesAt, mapLevels_eq_mapLevelsAt, level?_mapLevelsAt, Level.info, h]

theorem statesAt_mapLevels {F : Level → Level} (h : ∀ l, (F l).statement = l.statement)
    (game : Game) : (game.mapLevels F).statesAt = game.statesAt := by
  funext world index name
  simp [statesAt, mapLevels_eq_mapLevelsAt, level?_mapLevelsAt, h]

/-- What is open and new does not depend on what levels are besides their declarations and
statements. -/
theorem openAt_mapLevels {F : Level → Level}
    (h : ∀ l, (F l).inventory = l.inventory ∧ (F l).statement = l.statement) (game : Game) :
    (game.mapLevels F).OpenAt = game.OpenAt ∧ (game.mapLevels F).NewAt = game.NewAt := by
  unfold OpenAt NewAt
  rw [introducesAt_mapLevels (fun l => (h l).1), statesAt_mapLevels (fun l => (h l).2)]
  exact ⟨rfl, rfl⟩

/-- What is open on entering a world is introduced where a path leads from. -/
theorem mem_entryOf_iff_path {graph : WorldGraph} {order : List String}
    (horder : graph.topologicalOrder = some order) {kind : Kind} {name : String}
    (hname : name ≠ "") :
    name ∈ game.entryOf graph kind world
      ↔ ∃ u, graph.Path u world ∧ ∃ j, game.introducesAt kind u j name
          ∨ kind = .lemmas ∧ game.statesAt u j name := by
  simp only [mem_entryOf, World.mem_introduces hname, WorldGraph.mem_ancestors_iff_path horder,
    ← exists_world_introducesAt]
  constructor
  · intro h
    obtain ⟨u, w, hpath, hw, j, h⟩ := h
    exact ⟨u, hpath, j, w, hw, h⟩
  · intro h
    obtain ⟨u, hpath, j, w, hw, h⟩ := h
    exact ⟨u, w, hpath, hw, j, h⟩

/-- What is computed at a level of a game that passes: every item of the kind, open where `OpenAt`
holds of its name and new where `NewAt` does. -/
theorem exists_computedAt {graph : WorldGraph} (catalogue : Catalogue) {order : List String}
    (horder : graph.topologicalOrder = some order) (hvalid : game.validate graph = .ok ())
    {index : Int} {l : Level} (hl : game.level? world index = some l) (kind : Kind) :
    ∃ unlocked fresh,
      game.computedAt graph catalogue world index kind
          = sortComputed ((catalogue.itemsOf kind).map (Item.project unlocked fresh (l.info kind)))
        ∧ (∀ name, name ≠ "" → (name ∈ fresh ↔ game.NewAt kind world index name))
        ∧ ∀ name, name ≠ "" → (name ∈ unlocked ↔ game.OpenAt graph kind world index name) := by
  obtain ⟨w, hw, hl⟩ := level?_eq_some_iff.1 hl
  obtain ⟨unlocked, fresh, hlookup, hfresh, hunlocked⟩ :=
    World.exists_computed ((validate_eq_ok_iff.1 hvalid).2.2 world w hw) hl kind
      (catalogue.itemsOf kind) (game.entryOf graph kind world)
  refine ⟨unlocked, fresh, ?_, fun name hname => ?_, fun name hname => ?_⟩
  · simp only [computedAt, hw, World.computedAt, hlookup, Option.getD_some]
  · rw [hfresh name hname, NewAt, introducesAt_iff hw, statesAt_iff hw]
  · simp only [hunlocked name hname, OpenAt, mem_entryOf_iff_path horder hname,
      introducesAt_iff hw, statesAt_iff hw]

end Game

/-! ## What a compiled level lists -/

/-- What is listed for a kind at a level is what it should be, given which names should be open and
which new, and what the level declares. -/
structure IsAvailability (isOpen isNew : String → Prop) (catalogue : Catalogue) (kind : Kind)
    (info : Info) (computed : List ComputedItem) : Prop where
  /-- No name is listed twice. -/
  nodup : (computed.map (·.name)).Nodup
  /-- The names that are listed are those that are registered. -/
  mem_iff : ∀ name, name ∈ computed.map (·.name) ↔ catalogue.contains kind name = true
  /-- What is shown is what is registered. -/
  shown : ∀ i ∈ computed, ∃ item, catalogue.lookup kind i.name = some item
    ∧ i.displayName = item.displayName ∧ i.category = item.category
  locked_iff : ∀ i ∈ computed, i.locked = false ↔ isOpen i.name
  new_iff : ∀ i ∈ computed, i.new = true ↔ isNew i.name
  disabled_iff : ∀ i ∈ computed, i.disabled = true
    ↔ info.only.names ≠ [] ∧ i.name ∉ info.only ∨ info.only.names = [] ∧ i.name ∈ info.disabled

theorem sortComputed_perm (items : List ComputedItem) : (sortComputed items).Perm items := by
  rw [sortComputed_eq_sortBy]
  exact sortBy_perm _ items

theorem Info.isDisabled_iff {info : Info} {name : String} :
    info.isDisabled name = true
      ↔ info.only.names ≠ [] ∧ name ∉ info.only ∨ info.only.names = [] ∧ name ∈ info.disabled := by
  rw [isDisabled, NameSet.isEmpty]
  split
  · next h => simp [List.isEmpty_iff.1 h]
  · next h => simp [mt List.isEmpty_iff.2 h]

namespace Item

variable {unlocked fresh : List String} {info : Info}

theorem locked_project (i : Item) :
    (i.project unlocked fresh info).locked = false ↔ i.name ∈ unlocked := by
  simp [project]

theorem new_project (i : Item) : (i.project unlocked fresh info).new = true ↔ i.name ∈ fresh := by
  simp [project]

theorem project_withStatement (ds : Declarations) (notFound : String) (i : Item) :
    (i.withStatement ds notFound).project unlocked fresh info = i.project unlocked fresh info := by
  obtain ⟨statement, h⟩ := i.withStatement_eq ds notFound
  rw [h]
  rfl

end Item

/-- What is listed are the items of the kind, projected to the level. -/
theorem sortComputed_withStatement_perm (catalogue : Catalogue) (kind : Kind)
    (unlocked fresh : List String) (info : Info) (ds : Declarations) (notFound : String) :
    (sortComputed (((catalogue.mapItems (·.withStatement ds notFound)).itemsOf kind).map
      (Item.project unlocked fresh info))).Perm
        ((catalogue.itemsOf kind).map (Item.project unlocked fresh info)) := by
  rw [Catalogue.itemsOf_mapItems, List.map_map]
  simp only [Function.comp_def, Item.project_withStatement]
  exact sortComputed_perm _

/-- Every item projected to a level, under conditions on what is open and new. -/
theorem isAvailability_sortComputed {catalogue : Catalogue} (hkeyed : catalogue.Keyed)
    {unlocked fresh : List String} {isOpen isNew : String → Prop}
    (hfresh : ∀ name, name ≠ "" → (name ∈ fresh ↔ isNew name))
    (hunlocked : ∀ name, name ≠ "" → (name ∈ unlocked ↔ isOpen name))
    (kind : Kind) (info : Info) (ds : Declarations) (notFound : String) :
    IsAvailability isOpen isNew catalogue kind info
      (sortComputed (((catalogue.mapItems (·.withStatement ds notFound)).itemsOf kind).map
        (Item.project unlocked fresh info))) := by
  have hperm := sortComputed_withStatement_perm catalogue kind unlocked fresh info ds notFound
  have hnames : ((catalogue.itemsOf kind).map (Item.project unlocked fresh info)).map (·.name)
      = (catalogue.itemsOf kind).map (·.name) := by
    rw [List.map_map]
    rfl
  -- Everything that is listed comes from an item with a name that is not empty.
  have hmem : ∀ i ∈ sortComputed (((catalogue.mapItems (·.withStatement ds notFound)).itemsOf
      kind).map (Item.project unlocked fresh info)),
      ∃ item, catalogue.lookup kind item.name = some item ∧ item.name ≠ ""
        ∧ i = item.project unlocked fresh info := by
    intro i hi
    obtain ⟨item, hitem, rfl⟩ := List.mem_map.1 (hperm.mem_iff.1 hi)
    have hlookup := hkeyed.mem_itemsOf_iff.1 hitem
    exact ⟨item, hlookup, (hkeyed kind item.name item hlookup).2.2, rfl⟩
  constructor
  case nodup =>
    rw [(hperm.map _).nodup_iff, hnames]
    exact hkeyed.nodup_names kind
  case mem_iff =>
    intro name
    rw [(hperm.map _).mem_iff, hnames, hkeyed.mem_names_iff]
  case shown =>
    intro i hi
    obtain ⟨item, hlookup, -, rfl⟩ := hmem i hi
    exact ⟨item, hlookup, rfl, rfl⟩
  case locked_iff =>
    intro i hi
    obtain ⟨item, -, hname, rfl⟩ := hmem i hi
    exact item.locked_project.trans (hunlocked item.name hname)
  case new_iff =>
    intro i hi
    obtain ⟨item, -, hname, rfl⟩ := hmem i hi
    exact item.new_project.trans (hfresh item.name hname)
  case disabled_iff =>
    intro i hi
    obtain ⟨item, -, -, rfl⟩ := hmem i hi
    exact Info.isDisabled_iff

/-- Every level of a game that compiles lists the items as the game was authored. -/
theorem Game.isAvailability_compile {game : Game} {graph : WorldGraph} {catalogue : Catalogue}
    {ds : Declarations} {notFound : String} {bundle : Bundle} (hkeyed : catalogue.Keyed)
    (hok : (game.compile graph catalogue ds notFound).result = .ok bundle) (world : String)
    (index : Int) :
    ((game.compile graph catalogue ds notFound).game.level? world index).isSome
        = (game.level? world index).isSome
      ∧ ∀ l l', game.level? world index = some l →
        (game.compile graph catalogue ds notFound).game.level? world index = some l' →
        ∀ kind, ∃ info info', l.inventory.get? kind = some info
          ∧ l'.inventory.get? kind = some info'
          ∧ IsAvailability (game.OpenAt graph kind world index) (game.NewAt kind world index)
              catalogue kind info info'.computed := by
  obtain ⟨hobstacle, order, horder⟩ := compile_ok hok
  obtain ⟨hvalid, hkinds⟩ := obstacle_eq_none_iff.1 hobstacle
  rw [compile_of_no_obstacle hobstacle]
  constructor
  · have hsome := congrArg Option.isSome (game.inventory_compiled graph
      (catalogue.mapItems (·.withStatement ds notFound)) ds notFound world index)
    simpa only [Option.isSome_map] using hsome
  · intro l l' hl hl' kind
    obtain ⟨l₀, hl₀, hlisted⟩ := exists_level_of_compiled hl'
    obtain rfl : l = l₀ := Option.some.inj (hl.symm.trans hl₀)
    obtain ⟨info, hinfo⟩ := Option.isSome_iff_exists.1
      (hasKind_iff.1 (hkinds kind) world index l hl)
    obtain ⟨unlocked, fresh, hcomputed, hfresh, hunlocked⟩ := exists_computedAt
      (catalogue.mapItems (·.withStatement ds notFound)) horder hvalid hl kind
    have hl'info : l'.inventory.get? kind = some ⟨info.new, info.disabled, info.only,
        game.computedAt graph (catalogue.mapItems (·.withStatement ds notFound)) world index
          kind⟩ := by
      rw [hlisted, hinfo, Option.map_some]
    refine ⟨info, _, hinfo, hl'info, ?_⟩
    rw [hcomputed, Level.info, hinfo]
    exact isAvailability_sortComputed hkeyed hfresh hunlocked kind info ds notFound

namespace Session

/-! ## Sessions -/

/-- Whatever is done, every item stands under its own kind and name. -/
theorem keyed_after (settings : Settings) (ds : Declarations) (cs : List Command) :
    ((start settings ds).after cs).catalogue.Keyed := by
  refine after_of_run (P := fun s => s.catalogue.Keyed) ?_ Catalogue.keyed_empty cs
  intro s c h
  refine run_of_moves (P := fun s => s.catalogue.Keyed) ?_ (fun _ _ _ h => h) ?_
    (fun _ _ => Catalogue.keyed_empty) h c
  · intro s t hmove h
    obtain heq | ⟨doc, heq⟩ | ⟨kind, name, description, heq⟩ := hmove.catalogue
    · exact heq ▸ h
    · exact heq ▸ h.register doc
    · exact heq ▸ h.mention kind name description
  · intro s h
    rw [(game_compile s).2]
    exact h.compile _ _ _ _

/-- The levels of a session that compiles list the items as the game was authored. -/
theorem isAvailability_compile {s : Session} (hkeyed : s.catalogue.Keyed)
    (hcompile : s.compile.failure = none) (world : String) (index : Int) :
    (s.compile.session.game.level? world index).isSome = (s.game.level? world index).isSome
      ∧ ∀ l l', s.game.level? world index = some l →
        s.compile.session.game.level? world index = some l' →
        ∀ kind, ∃ info info', l.inventory.get? kind = some info
          ∧ l'.inventory.get? kind = some info'
          ∧ IsAvailability (s.game.OpenAt s.graph kind world index)
              (s.game.NewAt kind world index) s.catalogue kind info info'.computed := by
  obtain ⟨bundle, hok⟩ := failure_compile_eq_none_iff.1 hcompile
  obtain ⟨hsome, hlevels⟩ := Game.isAvailability_compile hkeyed hok world index
  -- Compiling starts from levels without old messages, which does not change what is open.
  obtain ⟨hopen, hnew⟩ := Game.openAt_mapLevels (F := Level.withdrawn) (fun _ => ⟨rfl, rfl⟩) s.game
  have hlevel : s.withdraw.game.level? world index
      = (s.game.level? world index).map Level.withdrawn := by
    rw [game_withdraw, Game.mapLevels_eq_mapLevelsAt, Game.level?_mapLevelsAt]
  rw [(game_compile s).1]
  rw [hlevel, Option.isSome_map] at hsome
  refine ⟨hsome, fun l l' hl hl' kind => ?_⟩
  rw [hlevel, game_withdraw, hopen, hnew] at hlevels
  exact hlevels l.withdrawn l' (by rw [hl, Option.map_some]) hl' kind

/-- **Availability.** Whatever was done before, a session that compiles has for every level and
every kind a list of all registered items, each of them once, which says of an item whether it is
open, new or taken away as the game was authored. -/
theorem availability_of_compile (settings : Settings) (ds : Declarations) (cs : List Command)
    (hcompile : ((start settings ds).after cs).compile.failure = none) :
    let s := (start settings ds).after cs
    let t := s.compile.session
    ∀ world index,
      (t.game.level? world index).isSome = (s.game.level? world index).isSome
      ∧ ∀ l l', s.game.level? world index = some l → t.game.level? world index = some l' →
        ∀ kind, ∃ info info', l.inventory.get? kind = some info
          ∧ l'.inventory.get? kind = some info'
          ∧ IsAvailability (s.game.OpenAt s.graph kind world index)
              (s.game.NewAt kind world index) s.catalogue kind info info'.computed := by
  intro s t
  exact isAvailability_compile (keyed_after settings ds cs) hcompile

/-- A path leads from a world that states a lemma to a world that does not. -/
def lemmaBeforePath : List Command := [
  .directive (.addWorld worldW),
  .directive (.setLevelIndex 1),
  .directive (.declareStatement (plainExercise (some "foo") propP)),
  .directive (.addWorld worldV),
  .directive (.setLevelIndex 1),
  .directive (.addPath "W" "V")]

/-- The lemma is open in the second world. -/
theorem open_lemmaBeforePath :
    ((start .standard .empty).after lemmaBeforePath).compile.failure = none
      ∧ ∃ l info, ((start .standard .empty).after lemmaBeforePath).compile.session.game.level? "V" 1
          = some l
        ∧ l.inventory.get? .lemmas = some info
        ∧ ∃ i ∈ info.computed, i.name = "foo" ∧ i.locked = false := by
  have hfailure : ((start .standard .empty).after lemmaBeforePath).compile.failure = none := by
    decide +kernel
  obtain ⟨-, hlevels⟩ := availability_of_compile .standard .empty lemmaBeforePath hfailure "V" 1
  obtain ⟨l, hl⟩ : ∃ l,
      ((start .standard .empty).after lemmaBeforePath).game.level? "V" 1 = some l :=
    Option.isSome_iff_exists.1 (by decide +kernel)
  obtain ⟨l', hl'⟩ : ∃ l',
      ((start .standard .empty).after lemmaBeforePath).compile.session.game.level? "V" 1
        = some l' :=
    Option.isSome_iff_exists.1 (by decide +kernel)
  obtain ⟨info, info', -, hinfo', hcomputed⟩ := hlevels l l' hl hl' .lemmas
  obtain ⟨i, hi, hname⟩ := List.mem_map.1 ((hcomputed.mem_iff "foo").2 (by decide +kernel))
  refine ⟨hfailure, l', info', hl', hinfo', i, hi, hname, (hcomputed.locked_iff i hi).2 ?_⟩
  have hstated : (((start .standard .empty).after lemmaBeforePath).game.level? "W" 1).bind
      (fun l => l.statement.bind (·.name)) = some "foo" := by decide +kernel
  obtain ⟨la, hla, hst⟩ := Option.bind_eq_some_iff.1 hstated
  obtain ⟨st, hst, hstname⟩ := Option.bind_eq_some_iff.1 hst
  have hedge : WorldGraph.Edge ((start .standard .empty).after lemmaBeforePath).graph "W" "V" := by
    unfold WorldGraph.Edge
    decide +kernel
  refine .inl ⟨"W", .single hedge, 1, .inr ⟨rfl, la, st, hla, hst, ?_⟩⟩
  rw [hname, hstname]

end Session
end Curriculum
