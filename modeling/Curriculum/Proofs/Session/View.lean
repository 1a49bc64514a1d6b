import Curriculum.Proofs.Session.Compile

/-!
# Looking at a part of a session

A view hides something of a session: of its levels, its log, its declarations
and its bundle. What it leaves is a session again, so an operation can be carried
out on what is seen. Operations that build worlds and levels neither read nor
write what a view hides; carrying them out and looking away can then be done in
either order. The operations that say something or record a statement depend on
what exactly is hidden.
-/

namespace Curriculum

namespace Session

/-- What is seen of a session. The statements that were looked up for lemmas never are. -/
structure View where
  level : Level → Level
  declarations : Declarations → Declarations
  messages : List Message → List Message
  bundle : Option Bundle → Option Bundle
  /-- On a level on which nothing has been said there is nothing to hide. -/
  level_fresh : ∀ world index, level (.fresh world index) = .fresh world index
  /-- The texts of a level are seen. -/
  level_texts : ∀ l field text, level { l with texts := l.texts.set field text }
    = { level l with texts := (level l).texts.set field text }

/-- What is seen of a session. -/
def viewed (v : View) (s : Session) : Session :=
  { s with
    declarations := v.declarations s.declarations
    game := s.game.mapLevels v.level
    catalogue := s.catalogue.cleared
    messages := v.messages s.messages
    bundle := v.bundle s.bundle }

end Session

/-- What is seen of an outcome. -/
def Outcome.viewed (v : Session.View) (o : Outcome) : Outcome := ⟨o.session.viewed v, o.failure⟩

namespace Session

variable (v : View)

theorem currentWorld_viewed (s : Session) :
    (s.viewed v).currentWorld = s.currentWorld.map fun w => w.mapLevels v.level := by
  simp only [currentWorld, viewed]
  cases s.cursor.world? with
  | none => rfl
  | some id => exact s.game.get?_worlds_mapLevels v.level id

theorem currentLevel_viewed (s : Session) :
    (s.viewed v).currentLevel = s.currentLevel.map v.level := by
  simp only [currentLevel, currentWorld_viewed, Option.bind_map]
  cases s.currentWorld with
  | none => rfl
  | some w =>
    simp only [Option.bind_some, viewed]
    cases s.cursor.level? with
    | none => rfl
    | some index => exact OrderedMap.get?_map v.level w.levels index

theorem modifyCurrentLevel_viewed {f f' : Level → Level}
    (h : ∀ l, v.level (f l) = f' (v.level l)) (s : Session) :
    (s.modifyCurrentLevel f).viewed v = (s.viewed v).modifyCurrentLevel f' := by
  have hcursor : (s.viewed v).cursor = s.cursor := rfl
  simp only [modifyCurrentLevel, hcursor]
  split
  · simp only [viewed, Game.mapLevels_modifyLevel h]
  · rfl

/-- A change of the current level that is not seen. -/
theorem modifyCurrentLevel_viewed_of_eq {f : Level → Level} (h : ∀ l, v.level (f l) = v.level l)
    (s : Session) : (s.modifyCurrentLevel f).viewed v = s.viewed v := by
  have hid : (s.modifyCurrentLevel f).viewed v = (s.viewed v).modifyCurrentLevel fun l => l :=
    modifyCurrentLevel_viewed v h s
  rw [hid]
  unfold modifyCurrentLevel
  split
  · rw [Game.modifyLevel_id]
  · rfl

theorem addWorld_viewed (s : Session) (id : String) :
    (s.addWorld id).viewed v = (s.viewed v).addWorld id := by
  have hcontains : (s.viewed v).game.worlds.contains id = s.game.worlds.contains id := by
    simp only [OrderedMap.contains, viewed, Game.mapLevels, OrderedMap.keys_map]
  have hinsert : Game.mapLevels { s.game with worlds := s.game.worlds.insert id (.fresh id) }
        v.level
      = { (s.viewed v).game with
          worlds := (s.viewed v).game.worlds.insert id (.fresh id) } := by
    simp only [Game.mapLevels, OrderedMap.map_insert]
    rfl
  simp only [addWorld, hcontains]
  split
  · rfl
  · rw [← hinsert]
    rfl

theorem setLevelIndex_viewed (s : Session) (index : Int) :
    (s.setLevelIndex index).viewed v = (s.viewed v).setLevelIndex index := by
  have hcursor : (s.viewed v).cursor = s.cursor := rfl
  simp only [setLevelIndex, currentWorld_viewed, hcursor]
  cases s.cursor.world? with
  | none => rfl
  | some id =>
    cases s.currentWorld with
    | none => rfl
    | some w =>
      have hcontains : (w.mapLevels v.level).levels.contains index = w.levels.contains index := by
        simp only [OrderedMap.contains, World.mapLevels, OrderedMap.keys_map]
      have hinsert : (s.game.modifyWorld id fun w =>
            { w with levels := w.levels.insert index (.fresh w.id index) }).mapLevels v.level
          = (s.viewed v).game.modifyWorld id fun w =>
            { w with levels := w.levels.insert index (.fresh w.id index) } := by
        refine Game.mapLevels_modifyWorld (fun w => ?_) s.game id
        simp only [World.mapLevels, OrderedMap.map_insert, v.level_fresh]
      simp only [Option.map_some, hcontains]
      split
      · rfl
      · split
        · rfl
        · rw [← hinsert]
          rfl

theorem setText_viewed (s : Session) (field : TextField) (text : String) :
    (s.setText field text).viewed v = (s.viewed v).setText field text := by
  have hcursor : (s.viewed v).cursor = s.cursor := rfl
  simp only [setText, hcursor]
  cases s.cursor with
  | game => rfl
  | world id =>
    have hmodify : (s.game.modifyWorld id fun w =>
          { w with texts := w.texts.set field text }).mapLevels v.level
        = (s.viewed v).game.modifyWorld id fun w => { w with texts := w.texts.set field text } :=
      Game.mapLevels_modifyWorld (fun w => rfl) s.game id
    dsimp only
    rw [← hmodify]
    rfl
  | level world index =>
    exact modifyCurrentLevel_viewed v (f := fun l => { l with texts := l.texts.set field text })
      (fun l => v.level_texts l field text) s

end Session
end Curriculum
