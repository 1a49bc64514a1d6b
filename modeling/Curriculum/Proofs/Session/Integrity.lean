import Curriculum.Proofs.Session.References
import Curriculum.Proofs.Session.Statements
import Curriculum.Proofs.Session.Structure

/-!
# What can be relied on

Worlds and levels are where they belong (`Settled`), they have what directives
give them (`WellBuilt`), and the names that they refer to are in the catalogue
(`Registered`). What is left is the cursor: the world that it is in is there,
`Anchored`, because it is turned to a world only where one is added, and no world
is ever taken away. So there always is a place for a text to be written to
(`textsHere_setText`).

Main statement: `intact_after` puts all of this together, for every run.
-/

namespace Curriculum.Session

/-! ## The cursor -/

/-- The world that the cursor is in is there. -/
def Anchored (s : Session) : Prop := ∀ id, s.cursor.world? = some id → id ∈ s.game.worlds.keys

theorem anchored_start (settings : Settings) (ds : Declarations) :
    (start settings ds).Anchored := fun _ h => absurd h (by simp [start, Cursor.world?])

/-- Turning to a level is staying in the world. -/
theorem world?_setLevelIndex (s : Session) (index : Int) :
    (s.setLevelIndex index).session.cursor.world? = s.cursor.world? := by
  unfold setLevelIndex
  split
  · next id w hid _ =>
    split
    · rfl
    · exact hid.symm
  · rfl

namespace Anchored

variable {s t : Session}

theorem of_keys (hs : s.Anchored) (hkeys : t.game.worlds.keys = s.game.worlds.keys)
    (hcursor : t.cursor.world? = s.cursor.world?) : t.Anchored := by
  intro id hid
  rw [hkeys]
  exact hs id (hcursor ▸ hid)

theorem modifyCurrentLevel (hs : s.Anchored) (f : Level → Level) :
    (s.modifyCurrentLevel f).Anchored := by
  obtain ⟨worlds, h⟩ := s.modifyCurrentLevel_eq f
  exact hs.of_keys (s.worlds_modifyCurrentLevel f).1 (by rw [h])

theorem move (h : Move s t) (hs : s.Anchored) : t.Anchored := by
  cases h with
  | report r => exact hs.modifyCurrentLevel (·.said (r.message .authoring s.location))
  | document doc => exact hs
  | mention kind name description => exact hs
  | setGame name => exact fun _ hid => absurd hid (by simp [setGame, Cursor.world?])
  | addWorld id =>
    intro id' hid
    obtain rfl : id.val = id' := Option.some.inj hid
    rw [keys_addWorld]
    split
    · assumption
    · simp
  | addPath source target => exact hs
  | setLevelIndex index =>
    exact hs.of_keys (s.worlds_setLevelIndex index).1 (s.world?_setLevelIndex index)
  | setText field text =>
    obtain ⟨hkeys, -, hcursor⟩ := s.worlds_setText field text
    exact hs.of_keys hkeys (by rw [hcursor])
  | setListing listing kind names => exact hs.modifyCurrentLevel _
  | setStatement hints statement => exact hs.modifyCurrentLevel _

end Anchored

theorem anchored_after (settings : Settings) (ds : Declarations) (cs : List Command) :
    ((start settings ds).after cs).Anchored := by
  refine after_of_run (fun s c hs => ?_) (anchored_start settings ds) cs
  refine run_of_moves (fun _ _ h hs => hs.move h) (fun _ _ _ hs => hs) (fun s hs => ?_)
    (fun _ _ => anchored_start _ _) hs c
  exact hs.of_keys (keys_of_authored s.authored_compile) (by rw [cursor_compile])

/-! ## Texts of the current place -/

/-- The texts of the place that the cursor is at. -/
def textsHere (s : Session) : Option Texts :=
  match s.cursor with
  | .game => some s.game.texts
  | .world _ => s.currentWorld.map (·.texts)
  | .level .. => s.currentLevel.map (·.texts)

/-- A text is written to the place that the cursor is at. -/
theorem textsHere_setText (s : Session) (field : TextField) (text : String) :
    (s.setText field text).textsHere = s.textsHere.map (·.set field text) := by
  have hcursor := (s.worlds_setText field text).2.2
  unfold textsHere
  rw [hcursor]
  cases hc : s.cursor with
  | game => simp [setText, hc]
  | world id =>
    simp only [setText, hc, currentWorld, Cursor.world?, Option.bind_some,
      Game.get?_worlds_modifyWorld, if_true, Option.map_map]
    rfl
  | level world index =>
    dsimp only
    rw [currentLevel_of_cursor (hcursor.trans hc), currentLevel_of_cursor hc]
    simp only [setText, hc, level?_modifyCurrentLevel, if_true, Option.map_map]
    rfl

/-! ## Integrity -/

/-- What can be relied on in a session. -/
structure Intact (s : Session) : Prop where
  /-- Worlds are kept under their identifiers, and they are worlds of the graph. -/
  world_place : ∀ world w, s.game.worlds.get? world = some w →
    w.id = world ∧ world ∈ s.graph.worlds
  /-- Levels are kept under their numbers, from one on, and know their world. -/
  level_place : ∀ world w index l, s.game.worlds.get? world = some w →
    w.levels.get? index = some l → l.index = index ∧ 1 ≤ index ∧ l.worldId = w.id
  /-- The cursor is at the game, at a world that is there or at a level that is there. -/
  cursor_place :
    (s.cursor = .game ∧ s.currentWorld = none ∧ s.currentLevel = none)
      ∨ (∃ id w, s.cursor = .world id ∧ s.game.worlds.get? id = some w
        ∧ s.currentWorld = some w ∧ s.currentLevel = none)
      ∨ ∃ id index w l, s.cursor = .level id index ∧ s.game.worlds.get? id = some w
        ∧ w.levels.get? index = some l ∧ s.currentWorld = some w ∧ s.currentLevel = some l
  /-- There are texts at the current place, and a text that is written is written to them. -/
  texts_here : ∃ texts, s.textsHere = some texts
    ∧ ∀ field text, (s.setText field text).textsHere = some (texts.set field text)
  /-- The names that a level lists are registered under the kind for which it lists them. -/
  listed : ∀ world index l kind info listing name, s.game.level? world index = some l →
    l.inventory.get? kind = some info → name ∈ info.listed listing →
    s.catalogue.contains kind name = true
  /-- The names of statements are registered as lemmas. -/
  stated : ∀ world index l st name, s.game.level? world index = some l →
    l.statement = some st → st.name = some name → name ≠ "" →
    s.catalogue.contains .lemmas name = true
  /-- So are all names that a world makes available to later worlds. -/
  introduced : ∀ world w kind name, s.game.worlds.get? world = some w →
    name ∈ w.introduces kind → s.catalogue.contains kind name = true

/-- The cursor is at the game or at something that is there. -/
theorem Settled.cursor_cases {s : Session} (hs : s.Settled) (h : s.Anchored) :
    (s.cursor = .game ∧ s.currentWorld = none ∧ s.currentLevel = none)
      ∨ (∃ id w, s.cursor = .world id ∧ s.game.worlds.get? id = some w
        ∧ s.currentWorld = some w ∧ s.currentLevel = none)
      ∨ ∃ id index w l, s.cursor = .level id index ∧ s.game.worlds.get? id = some w
        ∧ w.levels.get? index = some l ∧ s.currentWorld = some w ∧ s.currentLevel = some l := by
  cases hc : s.cursor with
  | game =>
    refine .inl ⟨rfl, ?_, ?_⟩
    · rw [currentWorld, hc, Cursor.world?, Option.bind_none]
    · rw [currentLevel, currentWorld, hc, Cursor.world?, Option.bind_none, Option.bind_none]
  | world id =>
    obtain ⟨w, hw⟩ := OrderedMap.mem_keys_iff.1 (h id (by rw [hc, Cursor.world?]))
    have hworld : s.currentWorld = some w := by
      rw [currentWorld, hc, Cursor.world?, Option.bind_some, hw]
    refine .inr (.inl ⟨id, w, rfl, hw, hworld, ?_⟩)
    simp only [currentLevel, hworld, hc, Cursor.level?, Option.bind_some, Option.bind_none]
  | level id index =>
    obtain ⟨l, hl⟩ := Option.isSome_iff_exists.1 (hs.cursor_level id index hc)
    obtain ⟨w, hw, hlevel⟩ := Game.level?_eq_some_iff.1 hl
    refine .inr (.inr ⟨id, index, w, l, rfl, hw, hlevel, ?_, ?_⟩)
    · rw [currentWorld, hc, Cursor.world?, Option.bind_some, hw]
    · rw [currentLevel_of_cursor hc, hl]

/-- There are texts to write to. -/
theorem Settled.exists_textsHere {s : Session} (hs : s.Settled) (h : s.Anchored) :
    ∃ texts, s.textsHere = some texts := by
  unfold textsHere
  rcases hs.cursor_cases h with
    ⟨hc, -, -⟩ | ⟨id, w, hc, -, hw, -⟩ | ⟨id, index, w, l, hc, -, -, -, hl⟩
  · rw [hc]
    exact ⟨_, rfl⟩
  · rw [hc, hw]
    exact ⟨_, rfl⟩
  · rw [hc, hl]
    exact ⟨_, rfl⟩

/-- **Integrity.** Whatever was done, with or without success, what a session refers to is there. -/
theorem intact_after (settings : Settings) (ds : Declarations) (cs : List Command) :
    ((start settings ds).after cs).Intact := by
  have hsettled := settled_after settings ds cs
  have hbuilt := wellBuilt_after settings ds cs
  have hregistered := registered_after settings ds cs
  have hanchored := anchored_after settings ds cs
  generalize (start settings ds).after cs = s at hsettled hbuilt hregistered hanchored
  have hrefers : ∀ world index l kind name, s.game.level? world index = some l →
      l.RefersTo kind name → s.catalogue.contains kind name = true :=
    fun world index l kind name hl hname =>
      hregistered world index kind name (Game.refersTo_iff.2 ⟨l, hl, hname⟩)
  constructor
  case world_place =>
    intro world w hw
    exact ⟨hsettled.placed.world_id world w hw,
      hbuilt.declared world (OrderedMap.mem_keys_iff.2 ⟨w, hw⟩)⟩
  case level_place =>
    intro world w index l hw hl
    have hlevel := Game.level?_eq_some_iff.2 ⟨w, hw, hl⟩
    obtain ⟨hworld, hindex⟩ := hsettled.placed.level_place world index l hlevel
    refine ⟨hindex, hindex ▸ (hbuilt.ready world index l hlevel).one_le, ?_⟩
    rw [hworld, hsettled.placed.world_id world w hw]
  case cursor_place => exact hsettled.cursor_cases hanchored
  case texts_here =>
    obtain ⟨texts, htexts⟩ := hsettled.exists_textsHere hanchored
    exact ⟨texts, htexts, fun field text => by rw [textsHere_setText, htexts, Option.map_some]⟩
  case listed =>
    intro world index l kind info listing name hl hinfo hname
    exact hrefers world index l kind name hl (.inl ⟨info, listing, hinfo, hname⟩)
  case stated =>
    intro world index l st name hl hst hname hne
    exact hrefers world index l .lemmas name hl
      (.inr (Level.mem_earnedOf_iff.2 ⟨rfl, hne, st, hst, hname⟩))
  case introduced =>
    intro world w kind name hw hname
    obtain ⟨index, l, hl, hname⟩ := World.exists_refersTo hname
    exact hrefers world index l kind name (Game.level?_eq_some_iff.2 ⟨w, hw, hl⟩) hname

/-- Names are registered although one of them is empty and nothing is listed. -/
example :
    let s := (start .standard .empty).after
      [.directive (.addWorld worldW), .directive (.setLevelIndex 1),
        .directive (.declareInventory .new .tactics ["rw", ""])]
    s.catalogue.contains .tactics "rw" = true
      ∧ (s.game.level? "W" 1).map (fun l => (l.info .tactics).new.names) = some [] := by
  decide +kernel

end Curriculum.Session
