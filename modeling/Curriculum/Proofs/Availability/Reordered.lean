import Mathlib.Data.List.Forall2
import Mathlib.Data.List.Perm.Basic
import Curriculum.Proofs.Availability.Outcome
import Curriculum.Proofs.Catalogue
import Curriculum.Proofs.WorldGraph.Reordered

/-!
# The same game in another order

An author may write the worlds of a game, the levels of a world, the items of the
catalogue and the paths between worlds in any order. Games, graphs and catalogues
are `Reordered` if they hold the same, and the order in which things are kept is
all that may differ. Compiling keeps this relation, step by step: the levels of a
world are walked by number, what is open on entering a world is collected from
the same ancestors, and the items of a level are sorted by a key that has their
names in it. In a catalogue that was filled by documenting and mentioning names
(`Catalogue.Keyed`) the items of a kind have different names, so no two of them
may stand in either order, `pairwise_sortComputed`.

Main statement: `Game.compile_reordered`. Games that are the same apart from
order compile to bundles that are the same apart from the order of the inventory
and of the levels that each world stores.
-/

namespace Curriculum

/-! ## The order of computed items -/

/-- Items stand by category, then by the name shown, both without regard to case, and last by the
name itself. -/
def ComputedItem.Precedes (i j : ComputedItem) : Prop :=
  Text.caseFold i.category < Text.caseFold j.category
    ∨ Text.caseFold i.category = Text.caseFold j.category
      ∧ (Text.caseFold i.displayName < Text.caseFold j.displayName
        ∨ Text.caseFold i.displayName = Text.caseFold j.displayName ∧ i.name < j.name)

namespace ComputedItem

/-- The key by which items are sorted, to be compared in dictionary order. -/
def lexKey (i : ComputedItem) : String ×ₗ String ×ₗ String :=
  toLex (i.sortKey.1, toLex i.sortKey.2)

theorem tripleLe_sortKey_iff (i j : ComputedItem) :
    tripleLe i.sortKey j.sortKey = true ↔ i.lexKey ≤ j.lexKey := by
  simp only [tripleLe, lexKey, Prod.Lex.toLex_le_toLex, Bool.or_eq_true, Bool.and_eq_true,
    decide_eq_true_eq, beq_iff_eq]

theorem precedes_iff {i j : ComputedItem} : i.Precedes j ↔ i.lexKey < j.lexKey := by
  simp only [Precedes, lexKey, sortKey, Prod.Lex.toLex_lt_toLex]

/-- Items with different names have different keys. -/
theorem nodup_lexKeys {items : List ComputedItem} (h : (items.map (·.name)).Nodup) :
    (items.map lexKey).Nodup := by
  refine .of_map (fun key => (ofLex (ofLex key).2).2) ?_
  rw [List.map_map]
  exact h

end ComputedItem

theorem pairwise_sortComputed {items : List ComputedItem} (h : (items.map (·.name)).Nodup) :
    (sortComputed items).Pairwise ComputedItem.Precedes := by
  rw [sortComputed_eq_sortBy]
  exact (pairwise_lt_sortBy ComputedItem.tripleLe_sortKey_iff (ComputedItem.nodup_lexKeys h)).imp
    ComputedItem.precedes_iff.2

theorem sortComputed_eq_of_perm {items items' : List ComputedItem} (hperm : items.Perm items')
    (h : (items.map (·.name)).Nodup) : sortComputed items = sortComputed items' := by
  rw [sortComputed_eq_sortBy, sortComputed_eq_sortBy]
  exact sortBy_eq_of_perm ComputedItem.tripleLe_sortKey_iff hperm (ComputedItem.nodup_lexKeys h)

/-! ## The walk -/

theorem Item.project_eq_of_perm {unlocked unlocked' : List String} (h : unlocked.Perm unlocked')
    (fresh : List String) (info : Info) :
    Item.project unlocked fresh info = Item.project unlocked' fresh info := by
  funext i
  simp only [project, h.mem_iff]

/-- The items that are listed at a level have the names of the catalogue's items. -/
theorem nodup_names_project {items : List Item} (h : (items.map (·.name)).Nodup)
    (unlocked fresh : List String) (info : Info) :
    ((items.map (Item.project unlocked fresh info)).map (·.name)).Nodup := by
  rw [List.map_map]
  exact h

section Walk

variable {items items' : List Item} (kind : Kind)

/-- The walk does not depend on the order of the items and of the names that are open. -/
theorem walkLevels_eq_of_perm (hitems : items.Perm items') (hnames : (items.map (·.name)).Nodup)
    {unlocked unlocked' : List String} (h : unlocked.Perm unlocked') (earned : List String)
    (levels : List Level) :
    walkLevels kind items unlocked earned levels
      = walkLevels kind items' unlocked' earned levels := by
  induction levels generalizing unlocked unlocked' earned with
  | nil => rfl
  | cons l rest ih =>
    have hopen : ((l.info kind).new.names ++ earned ++ unlocked).Perm
        ((l.info kind).new.names ++ earned ++ unlocked') := h.append_left _
    rw [walkLevels, walkLevels, ih hopen, Item.project_eq_of_perm hopen]
    congr 1
    exact sortComputed_eq_of_perm (hitems.map _) (nodup_names_project hnames _ _ _)

/-- The items of every level that is walked stand in their order, and no two of them side by
side. -/
theorem pairwise_walkLevels (hnames : (items.map (·.name)).Nodup) (unlocked earned : List String)
    (levels : List Level) :
    ∀ computed ∈ walkLevels kind items unlocked earned levels,
      computed.Pairwise ComputedItem.Precedes := by
  induction levels generalizing unlocked earned with
  | nil => simp [walkLevels]
  | cons l rest ih =>
    rw [walkLevels]
    exact List.forall_mem_cons.2
      ⟨pairwise_sortComputed (nodup_names_project hnames _ _ _), ih _ _⟩

end Walk

/-! ## Worlds -/

/-- The same world, perhaps with its levels in another order. -/
structure World.Reordered (w w' : World) : Prop where
  id : w.id = w'.id
  texts : w.texts = w'.texts
  levels : w.levels.Reordered w'.levels

namespace World

instance (w w' : World) : Decidable (w.Reordered w') :=
  decidable_of_iff (w.id = w'.id ∧ w.texts = w'.texts ∧ w.levels.Reordered w'.levels)
    ⟨fun h => ⟨h.1, h.2.1, h.2.2⟩, fun h => ⟨h.id, h.texts, h.levels⟩⟩

namespace Reordered

variable {w w' : World} (h : w.Reordered w')
include h

theorem numbers_eq : w.numbers = w'.numbers := by
  have hle : ∀ m n : Int, decide (m ≤ n) = true ↔ m ≤ n := fun _ _ => decide_eq_true_iff
  refine sortBy_eq_of_perm hle h.levels.keys_perm ?_
  rw [List.map_id']
  exact w.levels.nodup_keys

theorem orderedLevels_eq : w.orderedLevels = w'.orderedLevels := by
  rw [orderedLevels, orderedLevels, h.numbers_eq]
  exact List.filterMap_congr fun index _ => h.levels index

theorem introduces_perm (kind : Kind) : (w.introduces kind).Perm (w'.introduces kind) :=
  h.levels.values_perm.flatMap_right _

/-- Applying the same function to every level. -/
theorem mapLevelsAt (f : Int → Level → Level) :
    (w.mapLevelsAt f).Reordered (w'.mapLevelsAt f) where
  id := h.id
  texts := h.texts
  levels index := by
    simp only [World.mapLevelsAt, OrderedMap.get?_mapWithKey, h.levels index]

theorem computedAt_eq (kind : Kind) {items items' : List Item} (hitems : items.Perm items')
    (hnames : (items.map (·.name)).Nodup) {entry entry' : List String} (hentry : entry.Perm entry')
    (index : Int) :
    w.computedAt kind items entry index = w'.computedAt kind items' entry' index := by
  rw [computedAt, computedAt, h.numbers_eq, h.orderedLevels_eq,
    walkLevels_eq_of_perm kind hitems hnames hentry]

end Reordered

/-- What is computed at a level stands in its order. -/
theorem pairwise_computedAt (w : World) (kind : Kind) {items : List Item}
    (hnames : (items.map (·.name)).Nodup) (entry : List String) (index : Int) :
    (w.computedAt kind items entry index).Pairwise ComputedItem.Precedes := by
  unfold computedAt
  cases hlookup : (w.numbers.zip (walkLevels kind items entry [] w.orderedLevels)).lookup index with
  | none => exact .nil
  | some computed =>
    obtain ⟨before, after, heq, -⟩ := List.lookup_eq_some_iff.1 hlookup
    have hmem : (index, computed) ∈ w.numbers.zip (walkLevels kind items entry [] w.orderedLevels) :=
      heq ▸ List.mem_append_right before List.mem_cons_self
    exact pairwise_walkLevels kind hnames entry [] w.orderedLevels computed (List.of_mem_zip hmem).2

/-- What is collected from worlds, one by one, that are the same apart from the order of levels. -/
theorem flatMap_perm {γ : Type u} {f : World → List γ}
    (hf : ∀ w w', w.Reordered w' → (f w).Perm (f w')) {worlds worlds' : List World}
    (h : List.Forall₂ Reordered worlds worlds') :
    (worlds.flatMap f).Perm (worlds'.flatMap f) := by
  induction h with
  | nil => exact .refl _
  | cons hw _ ih =>
    rw [List.flatMap_cons, List.flatMap_cons]
    exact (hf _ _ hw).append ih

end World

/-! ## Catalogues -/

/-- The same items, perhaps in another order. -/
abbrev Catalogue.Reordered (c c' : Catalogue) : Prop := c.entries.Reordered c'.entries

namespace Catalogue.Reordered

variable {c c' : Catalogue} (h : c.Reordered c')
include h

theorem items_perm : c.items.Perm c'.items := OrderedMap.Reordered.values_perm h

theorem itemsOf_perm (kind : Kind) : (c.itemsOf kind).Perm (c'.itemsOf kind) :=
  ((OrderedMap.reordered_iff.1 h).filter _).map _

theorem mapItems (f : Item → Item) : (c.mapItems f).Reordered (c'.mapItems f) :=
  OrderedMap.Reordered.map h f

end Catalogue.Reordered

/-! ## Declarations -/

section Declarations

variable {ds ds' : Declarations} (hds : ds.Reordered ds')
include hds

/-- What is shown of a declaration does not depend on the order of declarations. -/
theorem Declarations.rendered?_eq : ds.rendered? = ds'.rendered? := by
  funext name
  rw [rendered?, rendered?, hds]

theorem Item.withStatement_eq_of_reordered : Item.withStatement ds = Item.withStatement ds' := by
  funext notFound i
  simp only [Item.withStatement, Declarations.shownOr, Declarations.rendered?_eq hds]

theorem Level.previewWarning_eq_of_reordered :
    Level.previewWarning ds = Level.previewWarning ds' := by
  funext game world l
  simp only [Level.previewWarning, Declarations.rendered?_eq hds]

theorem Level.withPreview_eq_of_reordered : Level.withPreview ds = Level.withPreview ds' := by
  funext notFound game world l
  simp only [Level.withPreview, Declarations.shownOr, Declarations.rendered?_eq hds,
    previewWarning_eq_of_reordered hds]

/-- The warnings about lemmas stand in the order of the items. -/
theorem undeclaredLemmas_perm {c c' : Catalogue} (hc : c.Reordered c') (game : String) :
    (undeclaredLemmas ds game c).Perm (undeclaredLemmas ds' game c') := by
  rw [undeclaredLemmas, undeclaredLemmas, Declarations.rendered?_eq hds]
  exact (hc.itemsOf_perm .lemmas).filterMap _

end Declarations

/-! ## Games -/

/-- The same game, perhaps with its worlds and the levels of each world in another order. -/
structure Game.Reordered (game game' : Game) : Prop where
  name : game.name = game'.name
  texts : game.texts = game'.texts
  worlds : ∀ world,
    Option.Rel World.Reordered (game.worlds.get? world) (game'.worlds.get? world)

/-- It is enough to compare the worlds that are there. -/
theorem Game.reordered_iff {game game' : Game} :
    game.Reordered game' ↔ game.name = game'.name ∧ game.texts = game'.texts
      ∧ ∀ world ∈ game.worlds.keys ++ game'.worlds.keys,
          Option.Rel World.Reordered (game.worlds.get? world) (game'.worlds.get? world) := by
  constructor
  · exact fun h => ⟨h.name, h.texts, fun world _ => h.worlds world⟩
  · intro h
    obtain ⟨hname, htexts, hworlds⟩ := h
    refine ⟨hname, htexts, fun world => ?_⟩
    by_cases hmem : world ∈ game.worlds.keys ++ game'.worlds.keys
    · exact hworlds world hmem
    · rw [List.mem_append, not_or, OrderedMap.mem_keys_iff_isSome, OrderedMap.mem_keys_iff_isSome,
        Option.not_isSome_iff_eq_none, Option.not_isSome_iff_eq_none] at hmem
      rw [hmem.1, hmem.2]
      exact .none

instance (game game' : Game) : Decidable (game.Reordered game') :=
  decidable_of_iff _ Game.reordered_iff.symm

namespace Game.Reordered

variable {game game' : Game} (h : game.Reordered game')
include h

/-- The same levels are there, at the same places. -/
theorem level?_eq (world : String) (index : Int) :
    game.level? world index = game'.level? world index := by
  have hworld := h.worlds world
  rw [level?, level?]
  generalize game.worlds.get? world = w, game'.worlds.get? world = w' at hworld ⊢
  cases hworld with
  | none => rfl
  | some hw => exact hw.levels index

/-- What is said of all worlds, if it does not depend on the order of their levels. -/
theorem forall_worlds_iff {P : World → Prop} (hP : ∀ w w', w.Reordered w' → (P w ↔ P w')) :
    (∀ world w, game.worlds.get? world = some w → P w)
      ↔ ∀ world w, game'.worlds.get? world = some w → P w := by
  refine forall_congr' fun world => ?_
  have hworld := h.worlds world
  generalize game.worlds.get? world = w, game'.worlds.get? world = w' at hworld ⊢
  cases hworld with
  | none => simp
  | some hw => simpa using hP _ _ hw

theorem isSome_worlds_eq (world : String) :
    (game.worlds.get? world).isSome = (game'.worlds.get? world).isSome :=
  isSome_eq_of_rel (h.worlds world)

/-- The worlds of some names, one by one. -/
theorem forall₂_worlds (names : List String) :
    List.Forall₂ World.Reordered (names.filterMap game.worlds.get?)
      (names.filterMap game'.worlds.get?) :=
  List.rel_filterMap (R := Eq) (fun world _ heq => heq ▸ h.worlds world) (List.forall₂_refl names)

/-- What is collected from all worlds. -/
theorem flatMap_values_perm {γ : Type u} {f : World → List γ}
    (hf : ∀ w w', w.Reordered w' → (f w).Perm (f w')) :
    (game.worlds.values.flatMap f).Perm (game'.worlds.values.flatMap f) := by
  have hkeys : game.worlds.keys.Perm game'.worlds.keys := by
    refine (List.perm_ext_iff_of_nodup game.worlds.nodup_keys game'.worlds.nodup_keys).2 ?_
    intro world
    rw [OrderedMap.mem_keys_iff_isSome, OrderedMap.mem_keys_iff_isSome, h.isSome_worlds_eq]
  rw [OrderedMap.values_eq_filterMap_keys, OrderedMap.values_eq_filterMap_keys]
  exact ((hkeys.filterMap _).flatMap_right f).trans
    (World.flatMap_perm hf (h.forall₂_worlds game'.worlds.keys))

/-- Applying the same function to every level. -/
theorem mapLevelsAt (f : String → Int → Level → Level) :
    (game.mapLevelsAt f).Reordered (game'.mapLevelsAt f) where
  name := h.name
  texts := h.texts
  worlds world := by
    simp only [Game.mapLevelsAt, OrderedMap.get?_mapWithKey]
    exact rel_map (fun _ _ hw => hw.mapLevelsAt (f world)) (h.worlds world)

/-! ### Conditions -/

theorem hasKind_eq (kind : Kind) : game.hasKind kind = game'.hasKind kind := by
  rw [Bool.eq_iff_iff, hasKind_iff, hasKind_iff]
  simp only [h.level?_eq]

variable {graph graph' : WorldGraph} (hgraph : graph.Reordered graph')
include hgraph

theorem validate_eq_ok_iff : game.validate graph = .ok () ↔ game'.validate graph' = .ok () := by
  rw [Game.validate_eq_ok_iff, Game.validate_eq_ok_iff, hgraph.findCycle_eq_nil_iff]
  simp only [hgraph.mem_worlds, h.isSome_worlds_eq]
  rw [h.forall_worlds_iff]
  intro w w' hw
  rw [hw.numbers_eq]

/-- Nothing stands in the way of both games, or something in the way of each. -/
theorem obstacle_eq_none_iff : game.obstacle graph = none ↔ game'.obstacle graph' = none := by
  rw [Game.obstacle_eq_none_iff, Game.obstacle_eq_none_iff, h.validate_eq_ok_iff hgraph]
  simp only [h.hasKind_eq]

/-! ### What is computed -/

theorem entryOf_perm (kind : Kind) (world : String) :
    (game.entryOf graph kind world).Perm (game'.entryOf graph' kind world) := by
  rw [entryOf, entryOf, hgraph.ancestors_eq]
  refine List.Perm.flatMap_left _ fun ancestor _ => ?_
  have hworld := h.worlds ancestor
  generalize game.worlds.get? ancestor = w, game'.worlds.get? ancestor = w' at hworld ⊢
  cases hworld with
  | none => exact .refl _
  | some hw => exact hw.introduces_perm kind

/-- The same is computed at every level. -/
theorem computedAt_eq {c c' : Catalogue} (hc : c.Reordered c') (hkeyed : c.Keyed) :
    game.computedAt graph c = game'.computedAt graph' c' := by
  funext world index kind
  have hentry := h.entryOf_perm hgraph kind world
  have hworld := h.worlds world
  rw [computedAt, computedAt]
  generalize game.worlds.get? world = w, game'.worlds.get? world = w' at hworld ⊢
  cases hworld with
  | none => rfl
  | some hw =>
    exact hw.computedAt_eq kind (hc.itemsOf_perm kind) (hkeyed.nodup_names kind) hentry index

/-! ### What is written -/

omit hgraph in
/-- Looking up previews. -/
theorem withPreviews {ds ds' : Declarations} (hds : ds.Reordered ds') (notFound : String) :
    (game.withPreviews ds notFound).Reordered (game'.withPreviews ds' notFound) where
  name := h.name
  texts := h.texts
  worlds world := by
    simp only [Game.withPreviews, OrderedMap.get?_map, Level.withPreview_eq_of_reordered hds,
      h.name]
    refine rel_map (fun w w' hw => ?_) (h.worlds world)
    rw [hw.id]
    exact hw.mapLevelsAt fun _ l => l.withPreview ds' notFound game'.name w'.id

/-- The games that compiling leaves. -/
theorem compiled {c c' : Catalogue} (hc : c.Reordered c') (hkeyed : c.Keyed)
    {ds ds' : Declarations} (hds : ds.Reordered ds') (notFound : String) :
    (game.compiled graph c ds notFound).Reordered (game'.compiled graph' c' ds' notFound) := by
  rw [Game.compiled, Game.compiled, h.computedAt_eq hgraph hc hkeyed]
  exact (h.mapLevelsAt _).withPreviews hds notFound

omit hgraph in
theorem previewWarnings_perm {ds ds' : Declarations} (hds : ds.Reordered ds') :
    (game.previewWarnings ds).Perm (game'.previewWarnings ds') := by
  rw [previewWarnings, previewWarnings, Level.previewWarning_eq_of_reordered hds, h.name]
  exact h.flatMap_values_perm fun w w' hw => .of_eq (by rw [hw.orderedLevels_eq, hw.id])

end Game.Reordered

/-- Everything that is computed stands in its order. -/
theorem Game.pairwise_computed {game : Game} {graph : WorldGraph} {c : Catalogue} (hkeyed : c.Keyed)
    {ds : Declarations} {notFound world : String} {index : Int} {l : Level} {kind : Kind}
    {info : Info} (hl : (game.compiled graph c ds notFound).level? world index = some l)
    (hinfo : l.inventory.get? kind = some info) :
    info.computed.Pairwise ComputedItem.Precedes := by
  obtain ⟨l₀, -, hlisted⟩ := exists_level_of_compiled hl
  rw [hlisted] at hinfo
  obtain ⟨info₀, -, rfl⟩ := Option.map_eq_some_iff.1 hinfo
  dsimp only [computedAt]
  cases game.worlds.get? world with
  | none => exact .nil
  | some w => exact w.pairwise_computedAt kind (hkeyed.nodup_names kind) _ index

/-! ## Bundles -/

/-- The same bundle, perhaps with the inventory, and the levels of each world, in another order. -/
structure Bundle.Reordered (b b' : Bundle) : Prop where
  name : b.name = b'.name
  texts : b.texts = b'.texts
  worldMap : b.worldMap = b'.worldMap
  inventory : b.inventory.Perm b'.inventory
  /-- The worlds stand in the same order. -/
  worlds : List.Forall₂ World.Reordered b.worlds b'.worlds
  facts : b.facts = b'.facts

/-- Totals do not depend on the order of levels and items. -/
theorem Totals.of_eq {worlds worlds' : List World} {items items' : List Item}
    (hworlds : List.Forall₂ World.Reordered worlds worlds') (hitems : items.Perm items') :
    Totals.of worlds items = Totals.of worlds' items' := by
  have hlevels : (worlds.flatMap (·.levels.values)).Perm (worlds'.flatMap (·.levels.values)) :=
    World.flatMap_perm (fun _ _ hw => hw.levels.values_perm) hworlds
  have hcomm : RightCommutative fun (n : Nat) (l : Level) => n + l.hints.length :=
    ⟨fun n l l' => Nat.add_right_comm n l.hints.length l'.hints.length⟩
  simp only [Totals.of, hworlds.length_eq, hlevels.length_eq, hitems.length_eq, hlevels.foldl_eq]

namespace Game

theorem Reordered.bundle {game game' : Game} (h : game.Reordered game') {graph graph' : WorldGraph}
    (hgraph : graph.Reordered graph') {c c' : Catalogue} (hc : c.Reordered c') {b b' : Bundle}
    (hb : game.bundle graph c = .ok b) (hb' : game'.bundle graph' c' = .ok b') :
    b.Reordered b' := by
  rw [Game.bundle, hgraph.map?_eq] at hb
  rw [Game.bundle] at hb'
  cases hmap : graph'.map? with
  | none =>
    rw [hmap] at hb
    exact absurd hb (by simp)
  | some worldMap =>
    rw [hmap] at hb hb'
    obtain rfl := Except.ok.inj hb
    obtain rfl := Except.ok.inj hb'
    have hworlds := h.forall₂_worlds worldMap.nodes
    exact ⟨h.name, h.texts, rfl, hc.items_perm, hworlds,
      congrArg Totals.members (Totals.of_eq hworlds hc.items_perm)⟩

/-- **Compiling does not depend on the order** in which a game was written. Let two games, their
graphs, their catalogues and what is declared be the same apart from order. Then one of them
compiles if and only if the other does, and all levels, with everything that is computed for them
and with their previews, and all items of the catalogues, with the statements of lemmas, are the
same. The bundles have the same worlds in the same order, the same map and the same totals; only the
order of the inventory, of the levels that a world stores and of the warnings may differ. What is
computed for a level stands in strictly ascending order. -/
theorem compile_reordered {game game' : Game} (hgame : game.Reordered game')
    {graph graph' : WorldGraph} (hgraph : graph.Reordered graph') {c c' : Catalogue}
    (hc : c.Reordered c') (hkeyed : c.Keyed) {ds ds' : Declarations} (hds : ds.Reordered ds')
    (notFound : String) :
    let t := game.compile graph c ds notFound
    let t' := game'.compile graph' c' ds' notFound
    ((∃ b, t.result = .ok b) ↔ ∃ b', t'.result = .ok b')
      ∧ ∀ b b', t.result = .ok b → t'.result = .ok b' →
        (∀ world index, t.game.level? world index = t'.game.level? world index)
        ∧ (∀ world index l kind info, t.game.level? world index = some l →
            l.inventory.get? kind = some info → info.computed.Pairwise ComputedItem.Precedes)
        ∧ (∀ kind name, t.catalogue.lookup kind name = t'.catalogue.lookup kind name)
        ∧ t.game.Reordered t'.game
        ∧ b.Reordered b'
        ∧ t.messages.Perm t'.messages := by
  intro t t'
  have hobstacle := hgame.obstacle_eq_none_iff hgraph
  constructor
  · rw [exists_compile_ok_iff, exists_compile_ok_iff, hobstacle]
  · intro b b' hb hb'
    have hnone : game.obstacle graph = none := exists_compile_ok_iff.1 ⟨b, hb⟩
    have ht : t = _ := compile_of_no_obstacle hnone ds notFound
    have ht' : t' = _ := compile_of_no_obstacle (hobstacle.1 hnone) ds' notFound
    rw [ht] at hb ⊢
    rw [ht', ← Item.withStatement_eq_of_reordered hds] at hb'
    rw [ht', ← Item.withStatement_eq_of_reordered hds]
    -- Statements are looked up first; what is computed is computed from the items with them.
    have hitems := hc.mapItems (Item.withStatement ds notFound)
    have hkeyed' := hkeyed.withStatement ds notFound
    have hcompiled := hgame.compiled hgraph hitems hkeyed' hds notFound
    refine ⟨hcompiled.level?_eq, fun world index l kind info => pairwise_computed hkeyed',
      fun kind name => hitems (kind, name), hcompiled, hcompiled.bundle hgraph hitems hb hb', ?_⟩
    rw [hgame.name]
    exact (undeclaredLemmas_perm hds hc game'.name).append (hgame.previewWarnings_perm hds)

/-- A game of worlds that have the same levels, each of which introduces a tactic. Worlds and levels
are written in the given orders. -/
def written (worlds : List String) (levels : List (Int × String)) : Game :=
  let level (id : String) (index : Int) (tactic : String) : Level :=
    { Level.fresh id index with
      inventory := Inventory.empty.modify .tactics (·.setListing .new (.ofList [tactic])) }
  let world (id : String) : World :=
    { World.fresh id with levels := .ofList (levels.map fun l => (l.1, level id l.1 l.2)) }
  { fresh "Game" with worlds := .ofList (worlds.map fun id => (id, world id)) }

/-- A game of three worlds and two tactics, written in one order and in the opposite order. -/
theorem compile_reordered_written :
    let rw : NonEmptyText := ⟨"rw", by decide⟩
    let simp : NonEmptyText := ⟨"simp", by decide⟩
    let game := written ["W", "V", "U"] [(1, "rw"), (2, "simp")]
    let game' := written ["U", "V", "W"] [(2, "simp"), (1, "rw")]
    let graph := (WorldGraph.empty.addEdge "W" "V").addEdge "W" "U"
    let graph' := (WorldGraph.empty.addEdge "W" "U").addEdge "W" "V"
    let c := ((Catalogue.empty.mention .tactics rw none).1.mention .tactics simp none).1
    let c' := ((Catalogue.empty.mention .tactics simp none).1.mention .tactics rw none).1
    (game.Reordered game' ∧ game ≠ game') ∧ (graph.Reordered graph' ∧ graph ≠ graph')
      ∧ (c.Reordered c' ∧ c ≠ c') ∧ c.Keyed
      ∧ ∃ b b', (game.compile graph c .empty "?").result = .ok b
        ∧ (game'.compile graph' c' .empty "?").result = .ok b' ∧ b.Reordered b' := by
  intro rw simp game game' graph graph' c c'
  have hgame : game.Reordered game' := by decide +kernel
  have hgraph : graph.Reordered graph' := by decide +kernel
  have hc : c.Reordered c' := by decide +kernel
  have hkeyed : c.Keyed :=
    (Catalogue.keyed_empty.mention .tactics rw none).mention .tactics simp none
  have hds : OrderedMap.Reordered (.empty : Declarations) .empty := fun _ => rfl
  obtain ⟨hiff, hsame⟩ := compile_reordered hgame hgraph hc hkeyed hds "?"
  have hobstacle : game.obstacle graph = none := by decide +kernel
  obtain ⟨b, hb⟩ := exists_compile_ok_iff.2 hobstacle
  obtain ⟨b', hb'⟩ := hiff.1 ⟨b, hb⟩
  refine ⟨⟨hgame, by decide +kernel⟩, ⟨hgraph, by decide +kernel⟩, ⟨hc, by decide +kernel⟩, hkeyed,
    b, b', hb, hb', (hsame b b' hb hb').2.2.2.2.1⟩

end Game
end Curriculum
