import Curriculum.Availability
import Curriculum.Proofs.Levels

/-!
# What compiling reads

Compiling writes into the game: what was computed for a level, the preview of
its statement, the statement of a lemma. `cleared` takes all of this away again.
None of it is read: whatever compiling looks at is the same in a game that is
cleared (`keepsListings_cleared`, `Game.hasKind_cleared`,
`Game.validate_cleared`, `Game.previewWarnings_cleared`). In the other
direction, writing cannot be seen once the game is cleared
(`Level.cleared_setComputed`, `Item.cleared_withStatement`), and what is written
does not depend on what was there (`Level.withPreview_setComputeds_cleared`,
`Item.withStatement_cleared`).

What is computed for levels depends on nothing of them but what they list and
what their statements earn, `KeepsListings`.
-/

namespace Curriculum

/-- Declarations without what was computed from them. -/
def Info.cleared (info : Info) : Info := { info with computed := [] }

/-- Declarations without what was computed from them. -/
def Inventory.cleared (inventory : Inventory) : Inventory :=
  ⟨inventory.tactics.map Info.cleared, inventory.lemmas.map Info.cleared,
    inventory.definitions.map Info.cleared⟩

/-- A statement without its preview. -/
def Statement.cleared (st : Statement) : Statement := { st with preview := none }

/-- A level without the preview of its statement. -/
def Level.unpreviewed (l : Level) : Level :=
  { l with statement := l.statement.map Statement.cleared }

/-- A level without what compiling writes to it, apart from messages. -/
def Level.cleared (l : Level) : Level :=
  { l.unpreviewed with inventory := l.inventory.cleared }

/-- An item without what compiling writes to it. -/
def Item.cleared (i : Item) : Item := if i.kind = .lemmas then { i with statement := none } else i

/-- A catalogue without what compiling writes to it. -/
def Catalogue.cleared (c : Catalogue) : Catalogue := c.mapItems Item.cleared

/-- A game without what compiling writes to it, apart from messages. -/
def Game.cleared (game : Game) : Game := game.mapLevels Level.cleared

namespace Inventory

@[simp] theorem get?_cleared (inventory : Inventory) (kind : Kind) :
    inventory.cleared.get? kind = (inventory.get? kind).map Info.cleared := by
  cases kind <;> rfl

theorem get?_modify (inventory : Inventory) (kind kind' : Kind) (f : Info → Info) :
    (inventory.modify kind f).get? kind'
      = if kind' = kind then (inventory.get? kind').map f else inventory.get? kind' := by
  unfold modify
  split
  · next info hinfo =>
    rw [get?_set]
    split
    · next h => rw [h, hinfo, Option.map_some]
    · rfl
  · next hnone =>
    split
    · next h => rw [h, hnone, Option.map_none]
    · rfl

/-- Declarations are known by what they are for each kind. -/
theorem ext_get? {i j : Inventory} (h : ∀ kind, i.get? kind = j.get? kind) : i = j := by
  obtain ⟨t, l, d⟩ := i
  obtain ⟨t', l', d'⟩ := j
  obtain rfl : t = t' := h .tactics
  obtain rfl : l = l' := h .lemmas
  obtain rfl : d = d' := h .definitions
  rfl

end Inventory

/-! ## Levels -/

namespace Level

@[simp] theorem info_cleared (l : Level) (kind : Kind) :
    l.cleared.info kind = (l.info kind).cleared := by
  rw [info, cleared, Inventory.get?_cleared, info]
  cases l.inventory.get? kind <;> rfl

@[simp] theorem earnedOf_cleared (l : Level) (kind : Kind) :
    l.cleared.earnedOf kind = l.earnedOf kind := by
  simp only [earnedOf, earned, cleared, unpreviewed]
  cases l.statement <;> rfl

@[simp] theorem previewWarning_cleared (ds : Declarations) (game world : String) (l : Level) :
    l.cleared.previewWarning ds game world = l.previewWarning ds game world := by
  simp only [previewWarning, cleared, unpreviewed]
  cases l.statement <;> rfl

/-- What was computed for a level cannot be seen once the level is cleared. -/
@[simp] theorem cleared_setComputed (l : Level) (kind : Kind) (computed : List ComputedItem) :
    (l.setComputed kind computed).cleared = l.cleared := by
  have h : (l.setComputed kind computed).inventory.cleared = l.inventory.cleared := by
    refine Inventory.ext_get? fun kind' => ?_
    rw [Inventory.get?_cleared, Inventory.get?_cleared, setComputed, Inventory.get?_modify]
    split
    · rw [Option.map_map]
      rfl
    · rfl
  rw [cleared, h]
  rfl

/-- Writes what was computed for several kinds. -/
def setComputeds (computed : Kind → List ComputedItem) (kinds : List Kind) (l : Level) : Level :=
  kinds.foldl (fun l kind => l.setComputed kind (computed kind)) l

/-- What is declared at a level for a kind, after something was computed for all kinds. -/
theorem get?_setComputeds (computed : Kind → List ComputedItem) (kinds : List Kind) (l : Level)
    (kind : Kind) :
    (l.setComputeds computed kinds).inventory.get? kind
      = if kind ∈ kinds
        then (l.inventory.get? kind).map fun info => { info with computed := computed kind }
        else l.inventory.get? kind := by
  induction kinds generalizing l with
  | nil => rfl
  | cons k kinds ih =>
    rw [setComputeds, List.foldl_cons, ← setComputeds, ih, setComputed, Inventory.get?_modify]
    by_cases hk : kind = k
    · subst hk
      rw [if_pos rfl, if_pos List.mem_cons_self, Option.map_map]
      split <;> rfl
    · rw [if_neg hk]
      simp only [List.mem_cons, hk, false_or]

/-- Writing what was computed changes nothing but the declarations. -/
theorem setComputeds_eq (computed : Kind → List ComputedItem) (kinds : List Kind) (l : Level) :
    l.setComputeds computed kinds
      = { l with inventory := (l.setComputeds computed kinds).inventory } := by
  induction kinds generalizing l with
  | nil => rfl
  | cons k kinds ih =>
    rw [setComputeds, List.foldl_cons, ← setComputeds, ih]
    rfl

/-- What is computed for all kinds and previewed does not depend on what was there before. -/
theorem withPreview_setComputeds_cleared (computed : Kind → List ComputedItem)
    (ds : Declarations) (notFound game world : String) (l : Level) :
    (l.cleared.setComputeds computed Kind.all).withPreview ds notFound game world
      = (l.setComputeds computed Kind.all).withPreview ds notFound game world := by
  have h : (l.cleared.setComputeds computed Kind.all).inventory
      = (l.setComputeds computed Kind.all).inventory := by
    -- What was computed before is overwritten, because something is written for every kind.
    refine Inventory.ext_get? fun kind => ?_
    rw [get?_setComputeds, get?_setComputeds, if_pos kind.mem_all, if_pos kind.mem_all, cleared,
      Inventory.get?_cleared, Option.map_map]
    rfl
  rw [setComputeds_eq, h, setComputeds_eq computed Kind.all l]
  simp only [withPreview, cleared, unpreviewed, previewWarning]
  cases l.statement <;> rfl

end Level

/-- Looking up statements changes nothing else about an item. -/
theorem Item.withStatement_eq (ds : Declarations) (notFound : String) (i : Item) :
    ∃ statement, i.withStatement ds notFound = { i with statement := statement } := by
  unfold withStatement
  split
  · exact ⟨_, rfl⟩
  · exact ⟨i.statement, rfl⟩

/-- What is looked up for an item does not depend on what was there before. -/
theorem Item.withStatement_cleared (ds : Declarations) (notFound : String) (i : Item) :
    i.cleared.withStatement ds notFound = i.withStatement ds notFound := by
  unfold cleared
  split
  · next h => simp only [withStatement, h, if_true]
  · rfl

/-- What was looked up for an item cannot be seen once the item is cleared. -/
theorem Item.cleared_withStatement (ds : Declarations) (notFound : String) (i : Item) :
    (i.withStatement ds notFound).cleared = i.cleared := by
  unfold withStatement
  split
  · next h => simp only [cleared, h, if_true]
  · rfl

/-! ## The catalogue -/

namespace Catalogue

theorem mapItems_mapItems (c : Catalogue) (f f' : Item → Item) :
    (c.mapItems f).mapItems f' = c.mapItems fun i => f' (f i) := by
  simp only [mapItems, OrderedMap.map_eq_mapWithKey, OrderedMap.mapWithKey_mapWithKey]

theorem itemsOf_mapItems (c : Catalogue) (f : Item → Item) (kind : Kind) :
    (c.mapItems f).itemsOf kind = (c.itemsOf kind).map f := by
  simp only [itemsOf, mapItems, OrderedMap.map, List.filter_map, List.map_map]
  rfl

theorem withStatement_cleared (c : Catalogue) (ds : Declarations) (notFound : String) :
    c.cleared.mapItems (·.withStatement ds notFound)
      = c.mapItems (·.withStatement ds notFound) := by
  rw [cleared, mapItems_mapItems]
  simp only [Item.withStatement_cleared]

theorem cleared_withStatement (c : Catalogue) (ds : Declarations) (notFound : String) :
    (c.mapItems (·.withStatement ds notFound)).cleared = c.cleared := by
  rw [cleared, mapItems_mapItems]
  simp only [Item.cleared_withStatement]
  rfl

end Catalogue

theorem undeclaredLemmas_cleared (ds : Declarations) (game : String) (c : Catalogue) :
    undeclaredLemmas ds game c.cleared = undeclaredLemmas ds game c := by
  have hname : ∀ i : Item, i.cleared.name = i.name := by
    intro i
    unfold Item.cleared
    split <;> rfl
  rw [undeclaredLemmas, Catalogue.cleared, Catalogue.itemsOf_mapItems, List.filterMap_map]
  simp only [Function.comp_def, hname]
  rfl

/-! ## The game -/

/-- A change of levels that leaves what they list for all kinds, and what their statements add to
the inventory. -/
structure KeepsListings (F : Level → Level) : Prop where
  info : ∀ l kind, ((F l).info kind).cleared = (l.info kind).cleared
  earned : ∀ l kind, (F l).earnedOf kind = l.earnedOf kind

theorem keepsListings_cleared : KeepsListings Level.cleared where
  info l kind := by
    rw [Level.info_cleared]
    rfl
  earned := Level.earnedOf_cleared

namespace KeepsListings

variable {F : Level → Level}

theorem new (hF : KeepsListings F) (l : Level) (kind : Kind) :
    ((F l).info kind).new = (l.info kind).new := (congrArg Info.new (hF.info l kind) :)

/-- An item is projected to a level by what the level lists. -/
theorem project (hF : KeepsListings F) (unlocked fresh : List String) (l : Level) (kind : Kind) :
    Item.project unlocked fresh ((F l).info kind) = Item.project unlocked fresh (l.info kind) := by
  funext i
  have hdisabled : ((F l).info kind).isDisabled i.name = (l.info kind).isDisabled i.name :=
    (congrArg (·.isDisabled i.name) (hF.info l kind) :)
  rw [Item.project, hdisabled]
  rfl

theorem walkLevels (hF : KeepsListings F) (kind : Kind) (items : List Item)
    (unlocked earned : List String) (levels : List Level) :
    walkLevels kind items unlocked earned (levels.map F)
      = walkLevels kind items unlocked earned levels := by
  induction levels generalizing unlocked earned with
  | nil => rfl
  | cons l rest ih =>
    rw [List.map_cons, Curriculum.walkLevels, Curriculum.walkLevels, hF.new, hF.project, hF.earned,
      ih]

theorem introduces (hF : KeepsListings F) (w : World) (kind : Kind) :
    (w.mapLevels F).introduces kind = w.introduces kind := by
  simp only [World.introduces, World.mapLevels, OrderedMap.values_map, List.flatMap_map, hF.new,
    hF.earned]

theorem entryOf (hF : KeepsListings F) (game : Game) (graph : WorldGraph) (kind : Kind)
    (world : String) :
    (game.mapLevels F).entryOf graph kind world = game.entryOf graph kind world := by
  rw [Game.entryOf, Game.entryOf]
  congr 1
  funext u
  rw [Game.get?_worlds_mapLevels]
  cases game.worlds.get? u with
  | none => rfl
  | some w => exact hF.introduces w kind

end KeepsListings

namespace Game

/-- Whether all levels declare something for a kind. -/
theorem hasKind_iff {game : Game} {kind : Kind} :
    game.hasKind kind = true
      ↔ ∀ world index l, game.level? world index = some l → (l.inventory.get? kind).isSome := by
  simp only [hasKind, List.all_eq_true, OrderedMap.mem_values_iff, level?_eq_some_iff]
  constructor
  · intro h world index l hlevel
    obtain ⟨w, hw, hl⟩ := hlevel
    exact h w ⟨world, hw⟩ l ⟨index, hl⟩
  · intro h w hworld l hlevel
    obtain ⟨world, hw⟩ := hworld
    obtain ⟨index, hl⟩ := hlevel
    exact h world index l ⟨w, hw, hl⟩

theorem hasKind_cleared (game : Game) (kind : Kind) :
    game.cleared.hasKind kind = game.hasKind kind := by
  simp only [hasKind, cleared, mapLevels, World.mapLevels, OrderedMap.values_map, List.all_map,
    Function.comp_def, Level.cleared, Inventory.get?_cleared, Option.isSome_map]

theorem validate_mapLevels (game : Game) (graph : WorldGraph) (f : Level → Level) :
    (game.mapLevels f).validate graph = game.validate graph := by
  have hcontains : ∀ world, (game.mapLevels f).worlds.contains world
      = game.worlds.contains world := by
    intro world
    simp only [OrderedMap.contains, mapLevels, OrderedMap.keys_map]
  have hmissing : ∀ w : World, (w.mapLevels f).missingNumbers = w.missingNumbers := by
    intro w
    simp only [World.missingNumbers, World.numbers_mapLevels]
  have hfind : (game.mapLevels f).worlds.values.find?
        (fun w => w.numbers ≠ numbersTo w.numbers.length)
      = (game.worlds.values.find? fun w => w.numbers ≠ numbersTo w.numbers.length).map
          fun w => w.mapLevels f := by
    simp only [mapLevels, OrderedMap.values_map, List.find?_map, Function.comp_def,
      World.numbers_mapLevels]
  simp only [validate, hcontains, hfind]
  split
  · rfl
  · split
    · rfl
    · cases game.worlds.values.find? fun w => w.numbers ≠ numbersTo w.numbers.length with
      | none => rfl
      | some w => simp only [Option.map_some, hmissing]; rfl

theorem validate_cleared (game : Game) (graph : WorldGraph) :
    game.cleared.validate graph = game.validate graph := game.validate_mapLevels graph Level.cleared

theorem previewWarnings_cleared (game : Game) (ds : Declarations) :
    game.cleared.previewWarnings ds = game.previewWarnings ds := by
  simp only [previewWarnings, cleared, mapLevels, OrderedMap.values_map, List.flatMap_map,
    World.orderedLevels_mapLevels, Level.previewWarning_cleared]
  rfl

end Game
end Curriculum
