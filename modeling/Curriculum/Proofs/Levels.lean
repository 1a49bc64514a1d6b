import Mathlib.Data.List.Basic
import Curriculum.Game
import Curriculum.Proofs.Mapping

/-!
# Levels of a game

Most of what happens to a game happens to its levels, where they are:
`Game.mapLevelsAt` changes every level and may look at the place of the level
while it does so. Two changes in a row are one (`mapLevelsAt_mapLevelsAt`), and
`level?_modifyLevel` says what a change of one level leaves at all places.
Worlds and levels repeat the keys under which they are kept; `Game.Placed` says
that they are right.
-/

namespace Curriculum

/-- Applies a function to every level, which may look at the number of the level. -/
def World.mapLevelsAt (w : World) (f : Int → Level → Level) : World :=
  { w with levels := w.levels.mapWithKey f }

/-- Applies a function to every level, which may look at the key of the world and at the number of
the level. -/
def Game.mapLevelsAt (g : Game) (f : String → Int → Level → Level) : Game :=
  { g with worlds := g.worlds.mapWithKey fun world w => w.mapLevelsAt (f world) }

namespace World

theorem mapLevels_eq_mapLevelsAt (w : World) (f : Level → Level) :
    w.mapLevels f = w.mapLevelsAt fun _ => f := rfl

@[simp] theorem keys_mapLevelsAt (w : World) (f : Int → Level → Level) :
    (w.mapLevelsAt f).levels.keys = w.levels.keys := OrderedMap.keys_mapWithKey f w.levels

@[simp] theorem numbers_mapLevelsAt (w : World) (f : Int → Level → Level) :
    (w.mapLevelsAt f).numbers = w.numbers := by
  rw [numbers, keys_mapLevelsAt, numbers]

@[simp] theorem numbers_mapLevels (w : World) (f : Level → Level) :
    (w.mapLevels f).numbers = w.numbers := numbers_mapLevelsAt w fun _ => f

/-- The numbers are those of the levels. -/
theorem mem_numbers_iff {w : World} {index : Int} :
    index ∈ w.numbers ↔ ∃ l, w.levels.get? index = some l := by
  rw [numbers, mem_sortBy, OrderedMap.mem_keys_iff]

theorem nodup_numbers (w : World) : w.numbers.Nodup :=
  (sortBy_perm _ w.levels.keys).nodup_iff.2 w.levels.nodup

/-- The levels in order, after all of them were changed. -/
theorem orderedLevels_mapLevels (w : World) (f : Level → Level) :
    (w.mapLevels f).orderedLevels = w.orderedLevels.map f := by
  rw [orderedLevels, orderedLevels, numbers_mapLevels, List.map_filterMap]
  exact List.filterMap_congr fun index _ => OrderedMap.get?_map f w.levels index

theorem mapLevelsAt_mapLevelsAt (w : World) (f g : Int → Level → Level) :
    (w.mapLevelsAt f).mapLevelsAt g = w.mapLevelsAt fun index l => g index (f index l) := by
  simp only [mapLevelsAt, OrderedMap.mapWithKey_mapWithKey]

theorem mapLevelsAt_id (w : World) : (w.mapLevelsAt fun _ l => l) = w := by
  simp only [mapLevelsAt, OrderedMap.mapWithKey_id]

end World

namespace Game

theorem mapLevels_eq_mapLevelsAt (g : Game) (f : Level → Level) :
    g.mapLevels f = g.mapLevelsAt fun _ _ => f := rfl

/-- A world, after all levels were changed. -/
@[simp] theorem get?_worlds_mapLevels (g : Game) (f : Level → Level) (world : String) :
    (g.mapLevels f).worlds.get? world = (g.worlds.get? world).map fun w => w.mapLevels f :=
  OrderedMap.get?_map (World.mapLevels · f) g.worlds world

/-- A level, after all levels were changed. -/
theorem level?_mapLevelsAt (g : Game) (f : String → Int → Level → Level) (world : String)
    (index : Int) :
    (g.mapLevelsAt f).level? world index = (g.level? world index).map (f world index) := by
  simp only [level?, mapLevelsAt, OrderedMap.get?_mapWithKey, Option.bind_map]
  cases g.worlds.get? world with
  | none => rfl
  | some w => exact OrderedMap.get?_mapWithKey (f world) w.levels index

/-- A level is there if its world is. -/
theorem level?_eq_some_iff {g : Game} {world : String} {index : Int} {l : Level} :
    g.level? world index = some l
      ↔ ∃ w, g.worlds.get? world = some w ∧ w.levels.get? index = some l := by
  rw [level?, Option.bind_eq_some_iff]

/-- One change after another is one change. -/
theorem mapLevelsAt_mapLevelsAt (g : Game) (f f' : String → Int → Level → Level) :
    (g.mapLevelsAt f).mapLevelsAt f'
      = g.mapLevelsAt fun world index l => f' world index (f world index l) := by
  simp only [mapLevelsAt, OrderedMap.mapWithKey_mapWithKey, World.mapLevelsAt_mapLevelsAt]

theorem mapLevels_mapLevels (g : Game) (f f' : Level → Level) :
    (g.mapLevels f).mapLevels f' = g.mapLevels fun l => f' (f l) :=
  mapLevelsAt_mapLevelsAt g (fun _ _ => f) (fun _ _ => f')

/-- A change that `F` does not see. -/
theorem mapLevels_mapLevelsAt {F : Level → Level} {f : String → Int → Level → Level}
    (h : ∀ world index l, F (f world index l) = F l) (g : Game) :
    (g.mapLevelsAt f).mapLevels F = g.mapLevels F := by
  simp only [mapLevels_eq_mapLevelsAt, mapLevelsAt_mapLevelsAt, h]

theorem mapLevelsAt_id (g : Game) : (g.mapLevelsAt fun _ _ l => l) = g := by
  simp only [mapLevelsAt, World.mapLevelsAt_id, OrderedMap.mapWithKey_id]

/-- Where all levels are the same apart from what `F` does not see, the same levels are there. -/
theorem map_level?_of_mapLevels {F : Level → Level} {g g' : Game}
    (h : g'.mapLevels F = g.mapLevels F) (world : String) (index : Int) :
    (g'.level? world index).map F = (g.level? world index).map F := by
  have hlevel := congrArg (fun g : Game => g.level? world index) h
  simpa only [mapLevels_eq_mapLevelsAt, level?_mapLevelsAt] using hlevel

/-- Changing one level leaves the others. -/
theorem level?_modifyLevel (g : Game) (world world' : String) (index index' : Int)
    (f : Level → Level) :
    (g.modifyLevel world index f).level? world' index'
      = if world' = world ∧ index' = index then (g.level? world' index').map f
        else g.level? world' index' := by
  simp only [level?, modifyLevel, modifyWorld, OrderedMap.get?_modify]
  by_cases hw : world' = world
  · rw [if_pos hw]
    cases g.worlds.get? world' with
    | none => simp
    | some w => simp [OrderedMap.get?_modify, hw]
  · rw [if_neg hw, if_neg fun h => hw h.1]

theorem modifyLevel_id (g : Game) (world : String) (index : Int) :
    (g.modifyLevel world index fun l => l) = g := by
  simp only [modifyLevel, modifyWorld, OrderedMap.modify_id]

/-- Changing one level twice. -/
theorem modifyLevel_modifyLevel (g : Game) (world : String) (index : Int) (f f' : Level → Level) :
    (g.modifyLevel world index f).modifyLevel world index f'
      = g.modifyLevel world index fun l => f' (f l) := by
  simp only [modifyLevel, modifyWorld, OrderedMap.modify_modify]

/-- Writing one level of a world leaves the others. -/
theorem level?_insertLevel (g : Game) (world world' : String) (index index' : Int)
    (f : World → Level) :
    (g.modifyWorld world fun w => { w with levels := w.levels.insert index (f w) }).level? world'
        index'
      = if world' = world ∧ index' = index then (g.worlds.get? world).map f
        else g.level? world' index' := by
  simp only [level?, modifyWorld, OrderedMap.get?_modify]
  by_cases hw : world' = world
  · subst hw
    rw [if_pos rfl]
    cases g.worlds.get? world' with
    | none => simp
    | some w => simp [OrderedMap.get?_insert]
  · rw [if_neg hw, if_neg fun h => hw h.1]

/-- A world, after one world was changed. -/
theorem get?_worlds_modifyWorld (g : Game) (world world' : String) (f : World → World) :
    (g.modifyWorld world f).worlds.get? world'
      = if world' = world then (g.worlds.get? world').map f else g.worlds.get? world' :=
  OrderedMap.get?_modify g.worlds world world' f

/-- A world is changed, and its levels are not. -/
theorem level?_modifyWorld_of_levels {f : World → World} (h : ∀ w, (f w).levels = w.levels)
    (g : Game) (world world' : String) (index : Int) :
    (g.modifyWorld world f).level? world' index = g.level? world' index := by
  rw [level?, get?_worlds_modifyWorld, level?]
  split
  · rw [Option.bind_map]
    simp only [Function.comp_def, h]
  · rfl

/-- All levels may be changed before a world is or after it, if the changes go together. -/
theorem mapLevels_modifyWorld {F : Level → Level} {f f' : World → World}
    (h : ∀ w, (f w).mapLevels F = f' (w.mapLevels F)) (g : Game) (world : String) :
    (g.modifyWorld world f).mapLevels F = (g.mapLevels F).modifyWorld world f' := by
  simp only [modifyWorld, mapLevels]
  congr 1
  exact OrderedMap.map_modify h g.worlds world

/-- All levels may be changed before one of them is or after it, if the changes go together. -/
theorem mapLevels_modifyLevel {F f f' : Level → Level} (h : ∀ l, F (f l) = f' (F l)) (g : Game)
    (world : String) (index : Int) :
    (g.modifyLevel world index f).mapLevels F = (g.mapLevels F).modifyLevel world index f' :=
  mapLevels_modifyWorld (fun w => by simp only [World.mapLevels, OrderedMap.map_modify h]) g world

/-! ## Where things are kept -/

/-- Worlds and levels know where they are kept: a world by its identifier, a level by its world and
its number. -/
structure Placed (g : Game) : Prop where
  world_id : ∀ world w, g.worlds.get? world = some w → w.id = world
  level_place : ∀ world index l, g.level? world index = some l →
    l.worldId = world ∧ l.index = index

theorem placed_fresh (name : String) : (fresh name).Placed where
  world_id _ _ h := absurd h (by simp [fresh])
  level_place _ _ _ h := absurd h (by simp [fresh, level?])

/-- Games whose levels are the same apart from what `F` does not see. -/
theorem Placed.of_mapLevels {F : Level → Level}
    (hF : ∀ l, (F l).worldId = l.worldId ∧ (F l).index = l.index) {g g' : Game} (hg : g.Placed)
    (h : g'.mapLevels F = g.mapLevels F) : g'.Placed where
  world_id world w hw := by
    have hworld := congrArg (fun g : Game => (g.worlds.get? world).map (·.id)) h
    simp only [get?_worlds_mapLevels, hw, Option.map_map, Option.map_some] at hworld
    obtain ⟨w', hw', hid⟩ := Option.map_eq_some_iff.1 hworld.symm
    exact hid.symm.trans (hg.world_id world w' hw')
  level_place world index l hl := by
    have hlevel := map_level?_of_mapLevels h world index
    rw [hl, Option.map_some] at hlevel
    obtain ⟨l', hl', heq⟩ := Option.map_eq_some_iff.1 hlevel.symm
    rw [← (hF l).1, ← (hF l).2, ← heq, (hF l').1, (hF l').2]
    exact hg.level_place world index l' hl'

/-- A world is changed, which keeps its identifier and has its levels where they belong. -/
theorem Placed.modifyWorld {g : Game} (hg : g.Placed) {world : String} {f : World → World}
    (h : ∀ w, g.worlds.get? world = some w → (f w).id = w.id ∧
      ∀ index l, (f w).levels.get? index = some l → l.worldId = world ∧ l.index = index) :
    (g.modifyWorld world f).Placed where
  world_id world' w' hw' := by
    rw [get?_worlds_modifyWorld] at hw'
    split at hw'
    · next heq =>
      subst heq
      obtain ⟨w, hw, rfl⟩ := Option.map_eq_some_iff.1 hw'
      exact (h w hw).1.trans (hg.world_id world' w hw)
    · exact hg.world_id world' w' hw'
  level_place world' index l hl := by
    obtain ⟨w', hw', hl⟩ := level?_eq_some_iff.1 hl
    rw [get?_worlds_modifyWorld] at hw'
    split at hw'
    · next heq =>
      subst heq
      obtain ⟨w, hw, rfl⟩ := Option.map_eq_some_iff.1 hw'
      exact (h w hw).2 index l hl
    · exact hg.level_place world' index l (level?_eq_some_iff.2 ⟨w', hw', hl⟩)

/-- A level is changed, which keeps its world and its number. -/
theorem Placed.modifyLevel {g : Game} (hg : g.Placed) {f : Level → Level}
    (hf : ∀ l, (f l).worldId = l.worldId ∧ (f l).index = l.index) (world : String) (index : Int) :
    (g.modifyLevel world index f).Placed := by
  refine hg.modifyWorld fun w hw => ⟨rfl, fun index' l hl => ?_⟩
  rw [OrderedMap.get?_modify] at hl
  split at hl
  · obtain ⟨l', hl', rfl⟩ := Option.map_eq_some_iff.1 hl
    rw [(hf l').1, (hf l').2]
    exact hg.level_place world index' l' (level?_eq_some_iff.2 ⟨w, hw, hl'⟩)
  · exact hg.level_place world index' l (level?_eq_some_iff.2 ⟨w, hw, hl⟩)

/-- A world without levels is added. -/
theorem Placed.addWorld {g : Game} (hg : g.Placed) (id : String) :
    Placed { g with worlds := g.worlds.insert id (.fresh id) } where
  world_id world w hw := by
    rw [OrderedMap.get?_insert] at hw
    split at hw
    · next heq => rw [← Option.some.inj hw, heq, World.fresh]
    · exact hg.world_id world w hw
  level_place world index l hl := by
    obtain ⟨w, hw, hl⟩ := level?_eq_some_iff.1 hl
    rw [OrderedMap.get?_insert] at hw
    split at hw
    · rw [← Option.some.inj hw] at hl
      exact absurd hl (by simp [World.fresh])
    · exact hg.level_place world index l (level?_eq_some_iff.2 ⟨w, hw, hl⟩)

end Game
end Curriculum
