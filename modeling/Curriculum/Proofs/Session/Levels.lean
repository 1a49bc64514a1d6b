import Curriculum.Proofs.Availability.Outcome
import Curriculum.Proofs.Session.Authored

/-!
# The levels of a session

What a move does to the levels, place by place. Most moves change the level that
the cursor is at or none at all; the exception is turning to a level, which may
add one (`level?_setLevelIndex`). `Game.seenAt` is what is seen of the level at
a place when a level that is not there counts as one on which nothing has been
said: then adding a level cannot be seen either.

Whatever is done, worlds and levels are kept under their own identifiers and
numbers, and a cursor at a level is at one that is there: `Settled`, which
`settled_after` proves of every run.
-/

namespace Curriculum

/-- A level with nothing but its place. -/
def Level.bare (l : Level) : Level := .fresh l.worldId l.index

/-- A level with nothing but its messages. -/
def Level.onlyDiagnostics (l : Level) : Level :=
  { Level.fresh "" 0 with diagnostics := l.diagnostics }

/-- A level with nothing but its statement, and that without its preview. -/
def Level.onlyStatement (l : Level) : Level :=
  { Level.fresh "" 0 with statement := l.statement.map Statement.cleared }

/-- What is seen of the level at a place, `fallback` if there is none. -/
def Game.seenAt {α : Type u} (g : Game) (F : Level → α) (fallback : α) (world : String)
    (index : Int) : α :=
  (g.level? world index).elim fallback F

theorem Game.map_seenAt {α : Type u} {β : Type v} (g : Game) (F : Level → Option α) (f : α → β)
    (world : String) (index : Int) :
    (g.seenAt F none world index).map f = g.seenAt (fun l => (F l).map f) none world index := by
  rw [seenAt, seenAt]
  cases g.level? world index <;> rfl

/-- What is seen of levels that are the same apart from what `F` does not see. -/
theorem Game.seenAt_of_mapLevels {α : Type u} {F : Level → Level} {G : Level → α} {g g' : Game}
    (hG : ∀ l, G (F l) = G l) (h : g'.mapLevels F = g.mapLevels F) (fallback : α) (world : String)
    (index : Int) : g'.seenAt G fallback world index = g.seenAt G fallback world index := by
  have hlevel := map_level?_of_mapLevels h world index
  rw [seenAt, seenAt]
  cases hl : g.level? world index with
  | none =>
    rw [hl, Option.map_none, Option.map_eq_none_iff] at hlevel
    rw [hlevel]
  | some l =>
    rw [hl, Option.map_some] at hlevel
    obtain ⟨l', hl', heq⟩ := Option.map_eq_some_iff.1 hlevel
    rw [hl', Option.elim_some, Option.elim_some, ← hG, heq, hG]

namespace Session

variable {α : Type u} {F : Level → α} {fallback : α}

/-! ## Moves -/

/-- Changing the current level leaves the others. -/
theorem level?_modifyCurrentLevel (s : Session) (f : Level → Level) (world : String) (index : Int) :
    (s.modifyCurrentLevel f).game.level? world index
      = if s.cursor = .level world index then (s.game.level? world index).map f
        else s.game.level? world index := by
  unfold modifyCurrentLevel
  split
  · next world' index' hc =>
    simp only [hc, Game.level?_modifyLevel, Cursor.level.injEq]
    exact if_congr (and_congr eq_comm eq_comm) rfl rfl
  · next hc => rw [if_neg (hc world index)]

theorem seenAt_modifyCurrentLevel {f : Level → Level} (h : ∀ l, F (f l) = F l) (s : Session)
    (world : String) (index : Int) :
    (s.modifyCurrentLevel f).game.seenAt F fallback world index
      = s.game.seenAt F fallback world index := by
  simp only [Game.seenAt, level?_modifyCurrentLevel]
  split
  · cases s.game.level? world index with
    | none => rfl
    | some l => exact h l
  · rfl

/-- A remark cannot be seen by what does not see messages. -/
theorem seenAt_report (h : ∀ l m, F (l.said m) = F l) (s : Session) (r : Remark) (world : String)
    (index : Int) :
    (s.report r).game.seenAt F fallback world index = s.game.seenAt F fallback world index :=
  seenAt_modifyCurrentLevel (fun l => h l (r.message .authoring s.location)) s world index

/-- A world that is added has no levels. -/
theorem level?_addWorld (s : Session) (id world : String) (index : Int) :
    (s.addWorld id).game.level? world index = s.game.level? world index := by
  unfold addWorld
  dsimp only
  split
  · rfl
  · next h =>
    rw [OrderedMap.contains_eq_isSome, Bool.not_eq_true, Option.isSome_eq_false_iff,
      Option.isNone_iff_eq_none] at h
    simp only [Game.level?, OrderedMap.get?_insert]
    split
    · next hworld =>
      rw [hworld, h]
      rfl
    · rfl

theorem seenAt_addWorld (s : Session) (id world : String) (index : Int) :
    (s.addWorld id).game.seenAt F fallback world index = s.game.seenAt F fallback world index := by
  rw [Game.seenAt, level?_addWorld, Game.seenAt]

/-- A level that the cursor is turned to is added if it is not there. -/
theorem level?_setLevelIndex (s : Session) (index : Int) :
    (s.setLevelIndex index).session = s
      ∨ ∃ world w, s.game.worlds.get? world = some w
        ∧ (s.setLevelIndex index).session.cursor = .level world index
        ∧ ∀ world' index', (s.setLevelIndex index).session.game.level? world' index'
          = if world' = world ∧ index' = index
            then some ((s.game.level? world index).getD (.fresh w.id index))
            else s.game.level? world' index' := by
  unfold setLevelIndex
  split
  · next world w hworld hw =>
    split
    · exact .inl rfl
    · have hget : s.game.worlds.get? world = some w := by
        rw [currentWorld, hworld] at hw
        exact hw
      have hlevel : s.game.level? world index = w.levels.get? index := by
        rw [Game.level?, hget, Option.bind_some]
      refine .inr ⟨world, w, hget, rfl, fun world' index' => ?_⟩
      rw [hlevel]
      dsimp only [done]
      split
      · next h =>
        rw [OrderedMap.contains_eq_isSome] at h
        obtain ⟨l, hl⟩ := Option.isSome_iff_exists.1 h
        split
        · next hplace => rw [hplace.1, hplace.2, hlevel, hl, Option.getD_some]
        · rfl
      · next h =>
        rw [OrderedMap.contains_eq_isSome, Option.not_isSome_iff_eq_none] at h
        rw [Game.level?_insertLevel, hget, h, Option.map_some, Option.getD_none]
  · exact .inl rfl

/-- A level that is added cannot be seen by what does not see a level on which nothing has been
said. -/
theorem seenAt_setLevelIndex (h : ∀ world index, F (.fresh world index) = fallback) (s : Session)
    (index : Int) (world : String) (index' : Int) :
    (s.setLevelIndex index).session.game.seenAt F fallback world index'
      = s.game.seenAt F fallback world index' := by
  obtain hsame | ⟨world', w, -, -, hlevel⟩ := s.level?_setLevelIndex index
  · rw [hsame]
  · rw [Game.seenAt, hlevel, Game.seenAt]
    split
    · next hplace =>
      rw [hplace.1, hplace.2]
      cases s.game.level? world' index with
      | none => exact h w.id index
      | some l => rfl
    · rfl

theorem seenAt_setText (h : ∀ l texts, F { l with texts := texts } = F l) (s : Session)
    (field : TextField) (text : String) (world : String) (index : Int) :
    (s.setText field text).game.seenAt F fallback world index
      = s.game.seenAt F fallback world index := by
  unfold setText
  split
  · rfl
  · next id hc =>
    have hlevel := s.game.level?_modifyWorld_of_levels
      (f := fun w => { w with texts := w.texts.set field text }) (fun _ => rfl) id world index
    dsimp only
    rw [Game.seenAt, hlevel, Game.seenAt]
  · exact seenAt_modifyCurrentLevel (fun l => h l _) s world index

/-! ## Places -/

/-- Worlds and levels are kept where they belong, and a cursor at a level is at one that is
there. -/
structure Settled (s : Session) : Prop where
  placed : s.game.Placed
  cursor_level : ∀ world index, s.cursor = .level world index →
    (s.game.level? world index).isSome

theorem Settled.modifyCurrentLevel {s : Session} (hs : s.Settled) {f : Level → Level}
    (hf : ∀ l, (f l).worldId = l.worldId ∧ (f l).index = l.index) :
    (s.modifyCurrentLevel f).Settled where
  placed := by
    unfold Session.modifyCurrentLevel
    split
    · exact hs.placed.modifyLevel hf _ _
    · exact hs.placed
  cursor_level world index hc := by
    have hcursor : (s.modifyCurrentLevel f).cursor = s.cursor := by
      obtain ⟨worlds, h⟩ := s.modifyCurrentLevel_eq f
      rw [h]
    rw [hcursor] at hc
    rw [level?_modifyCurrentLevel, if_pos hc, Option.isSome_map]
    exact hs.cursor_level world index hc

theorem Settled.addWorld {s : Session} (hs : s.Settled) (id : String) : (s.addWorld id).Settled where
  placed := by
    unfold Session.addWorld
    dsimp only
    split
    · exact hs.placed
    · exact hs.placed.addWorld id
  cursor_level _ _ hc := absurd hc (by simp [Session.addWorld])

theorem Settled.setLevelIndex {s : Session} (hs : s.Settled) (index : Int) :
    (s.setLevelIndex index).session.Settled where
  placed := by
    unfold Session.setLevelIndex
    split
    · next world w hworld hw =>
      split
      · exact hs.placed
      · dsimp only [done]
        split
        · exact hs.placed
        · refine hs.placed.modifyWorld fun w' hw' => ⟨rfl, fun index' l hl => ?_⟩
          rw [OrderedMap.get?_insert] at hl
          split at hl
          · next hindex =>
            rw [← Option.some.inj hl, hindex]
            exact ⟨hs.placed.world_id world w' hw', rfl⟩
          · exact hs.placed.level_place world index' l (Game.level?_eq_some_iff.2 ⟨w', hw', hl⟩)
    · exact hs.placed
  cursor_level world index' hc := by
    obtain hsame | ⟨world', w, -, hcursor, hlevel⟩ := s.level?_setLevelIndex index
    · rw [hsame] at hc ⊢
      exact hs.cursor_level world index' hc
    · rw [hcursor] at hc
      obtain ⟨rfl, rfl⟩ := Cursor.level.inj hc
      rw [hlevel, if_pos ⟨rfl, rfl⟩]
      rfl

theorem Settled.setText {s : Session} (hs : s.Settled) (field : TextField) (text : String) :
    (s.setText field text).Settled := by
  unfold Session.setText
  split
  · exact ⟨⟨hs.placed.world_id, hs.placed.level_place⟩, hs.cursor_level⟩
  · next id hc =>
    constructor
    case placed =>
      refine hs.placed.modifyWorld fun w hw => ⟨rfl, fun index l hl => ?_⟩
      exact hs.placed.level_place id index l (Game.level?_eq_some_iff.2 ⟨w, hw, hl⟩)
    case cursor_level => exact fun _ _ h => absurd (hc.symm.trans h) (by simp)
  · exact hs.modifyCurrentLevel fun _ => ⟨rfl, rfl⟩

theorem Settled.move {s t : Session} (h : Move s t) (hs : s.Settled) : t.Settled := by
  cases h with
  | report r =>
    have hmodify := hs.modifyCurrentLevel (f := (·.said (r.message .authoring s.location)))
      fun _ => ⟨rfl, rfl⟩
    exact ⟨hmodify.placed, hmodify.cursor_level⟩
  | document doc => exact ⟨hs.placed, hs.cursor_level⟩
  | mention kind name description => exact ⟨hs.placed, hs.cursor_level⟩
  | setGame name =>
    exact ⟨⟨hs.placed.world_id, hs.placed.level_place⟩, fun _ _ h => absurd h (by simp [setGame])⟩
  | addWorld id => exact hs.addWorld id.val
  | addPath source target => exact ⟨hs.placed, hs.cursor_level⟩
  | setLevelIndex index => exact hs.setLevelIndex index
  | setText field text => exact hs.setText field text
  | setListing listing kind names => exact hs.modifyCurrentLevel fun _ => ⟨rfl, rfl⟩
  | setStatement hints statement => exact hs.modifyCurrentLevel fun _ => ⟨rfl, rfl⟩

/-- Compiling cannot be seen by what sees neither what compiling writes nor what it withdraws. -/
theorem mapLevels_game_compile {F : Level → Level}
    (hcomputed : ∀ l kind computed, F (l.setComputed kind computed) = F l)
    (hpreview : ∀ ds notFound name id l, F (l.withPreview ds notFound name id) = F l)
    (hwithdrawn : ∀ l, F l.withdrawn = F l) (s : Session) :
    s.compile.session.game.mapLevels F = s.game.mapLevels F := by
  rw [(game_compile s).1, compilation, Game.mapLevels_compile hcomputed (hpreview _ _),
    game_withdraw, Game.mapLevels_mapLevels]
  simp only [hwithdrawn]

theorem cursor_compile (s : Session) : s.compile.session.cursor = s.cursor := by
  obtain ⟨game, catalogue, messages, bundle, h⟩ := s.compile_eq
  rw [h]

theorem Settled.placed_withdraw {s : Session} (hs : s.Settled) : s.withdraw.game.Placed := by
  have hgame : s.withdraw.game.mapLevels Level.bare = s.game.mapLevels Level.bare := by
    rw [game_withdraw, Game.mapLevels_mapLevels]
    rfl
  exact hs.placed.of_mapLevels (F := Level.bare) (fun _ => ⟨rfl, rfl⟩) hgame

theorem Settled.compile {s : Session} (hs : s.Settled) : s.compile.session.Settled := by
  -- Compiling keeps which levels there are, and what they say about their places.
  have hgame : s.compile.session.game.mapLevels Level.bare = s.game.mapLevels Level.bare :=
    mapLevels_game_compile (fun _ _ _ => rfl) (fun _ _ _ _ _ => rfl) (fun _ => rfl) s
  constructor
  case placed => exact hs.placed.of_mapLevels (F := Level.bare) (fun _ => ⟨rfl, rfl⟩) hgame
  case cursor_level =>
    intro world index hc
    rw [cursor_compile] at hc
    have hlevel := congrArg Option.isSome (Game.map_level?_of_mapLevels hgame world index)
    rw [Option.isSome_map, Option.isSome_map] at hlevel
    rw [hlevel]
    exact hs.cursor_level world index hc

theorem settled_start (settings : Settings) (ds : Declarations) : (start settings ds).Settled where
  placed := Game.placed_fresh settings.defaultGame
  cursor_level _ _ h := absurd h (by simp [start])

/-- **Places.** Every command keeps worlds and levels where they belong. -/
theorem Settled.run {s : Session} (hs : s.Settled) (c : Command) : (s.run c).session.Settled :=
  run_of_moves (fun _ _ h hs => hs.move h) (fun _ _ _ hs => ⟨hs.placed, hs.cursor_level⟩)
    (fun _ hs => hs.compile) (fun _ _ => settled_start _ _) hs c

theorem settled_after (settings : Settings) (ds : Declarations) (cs : List Command) :
    ((start settings ds).after cs).Settled :=
  after_of_run (fun _ c hs => hs.run c) (settled_start settings ds) cs

end Session
end Curriculum
