import Curriculum.Proofs.Session.Levels
import Curriculum.Proofs.Session.Recompile

/-!
# What directives build

A game that is built by directives has more structure than games have to have.
Its levels have positive numbers and declare something, if only nothing, for
every kind (`Level.Ready`), and every world that is declared is a world of the
graph. `WellBuilt` says this of a session, and `wellBuilt_after` proves it of
every run. So a compilation never fails for want of a kind, and a world that is
declared is never left out of the play order.
-/

namespace Curriculum

/-- A level as directives make it. -/
structure Level.Ready (l : Level) : Prop where
  one_le : 1 ≤ l.index
  /-- Something is declared, if only nothing, for every kind. -/
  hasKinds : ∀ kind, (l.inventory.get? kind).isSome

namespace Level

theorem ready_fresh {world : String} {index : Int} (h : 1 ≤ index) :
    (fresh world index).Ready where
  one_le := h
  hasKinds kind := by cases kind <;> rfl

theorem Ready.setListing {l : Level} (hl : l.Ready) (listing : Listing) (kind : Kind)
    (names : NameSet) :
    Ready { l with inventory := l.inventory.modify kind (·.setListing listing names) } where
  one_le := hl.one_le
  hasKinds kind' := by
    rw [Inventory.get?_modify]
    split
    · rw [Option.isSome_map]
      exact hl.hasKinds kind'
    · exact hl.hasKinds kind'

/-- What compiling writes makes no difference. -/
theorem ready_authored {l : Level} : l.authored.Ready ↔ l.Ready := by
  have hkinds : ∀ kind,
      (l.authored.inventory.get? kind).isSome = (l.inventory.get? kind).isSome := by
    intro kind
    show (l.inventory.cleared.get? kind).isSome = _
    rw [Inventory.get?_cleared, Option.isSome_map]
  constructor
  · intro h
    exact ⟨h.one_le, fun kind => hkinds kind ▸ h.hasKinds kind⟩
  · intro h
    exact ⟨h.one_le, fun kind => (hkinds kind).trans (h.hasKinds kind)⟩

end Level

namespace Session

/-- All levels are ready, and all worlds that are declared are worlds of the graph. -/
structure WellBuilt (s : Session) : Prop where
  ready : ∀ world index l, s.game.level? world index = some l → l.Ready
  declared : ∀ world ∈ s.game.worlds.keys, world ∈ s.graph.worlds

theorem wellBuilt_start (settings : Settings) (ds : Declarations) :
    (start settings ds).WellBuilt where
  ready _ _ _ h := absurd h (by simp [start, Game.fresh, Game.level?])
  declared _ h := absurd h (by simp [start, Game.fresh, OrderedMap.keys, OrderedMap.empty])

/-- Changing the current level keeps the worlds and the graph. -/
theorem worlds_modifyCurrentLevel (s : Session) (f : Level → Level) :
    (s.modifyCurrentLevel f).game.worlds.keys = s.game.worlds.keys
      ∧ (s.modifyCurrentLevel f).graph = s.graph := by
  unfold modifyCurrentLevel
  split
  · exact ⟨OrderedMap.keys_modify .., rfl⟩
  · exact ⟨rfl, rfl⟩

/-- A world that is added comes after the others, unless it is there. -/
theorem keys_addWorld (s : Session) (id : String) :
    (s.addWorld id).game.worlds.keys
      = if id ∈ s.game.worlds.keys then s.game.worlds.keys else s.game.worlds.keys ++ [id] := by
  unfold addWorld
  dsimp only
  split
  · next hthere => rw [if_pos (List.contains_iff_mem.1 hthere)]
  · exact s.game.worlds.keys_insert id (.fresh id)

/-- Turning to a level keeps the worlds and the graph. -/
theorem worlds_setLevelIndex (s : Session) (index : Int) :
    (s.setLevelIndex index).session.game.worlds.keys = s.game.worlds.keys
      ∧ (s.setLevelIndex index).session.graph = s.graph := by
  unfold setLevelIndex
  split
  · split
    · exact ⟨rfl, rfl⟩
    · dsimp only [done]
      split
      · exact ⟨rfl, rfl⟩
      · exact ⟨OrderedMap.keys_modify .., rfl⟩
  · exact ⟨rfl, rfl⟩

/-- Which worlds there are can be told from what the author has made. -/
theorem keys_of_authored {s t : Session} (h : t.authored = s.authored) :
    t.game.worlds.keys = s.game.worlds.keys := by
  have hkeys := congrArg (fun s : Session => s.game.worlds.keys) h
  simpa only [authored, Game.mapLevels, OrderedMap.keys_map] using hkeys

/-- Writing a text keeps the worlds, the graph and the cursor. -/
theorem worlds_setText (s : Session) (field : TextField) (text : String) :
    (s.setText field text).game.worlds.keys = s.game.worlds.keys
      ∧ (s.setText field text).graph = s.graph ∧ (s.setText field text).cursor = s.cursor := by
  obtain ⟨game, h⟩ := s.setText_eq field text
  refine ⟨?_, by rw [h], by rw [h]⟩
  unfold setText
  split
  · rfl
  · exact OrderedMap.keys_modify ..
  · exact (s.worlds_modifyCurrentLevel _).1

namespace WellBuilt

variable {s : Session}

theorem modifyCurrentLevel (hs : s.WellBuilt) {f : Level → Level}
    (hf : ∀ l, l.Ready → (f l).Ready) : (s.modifyCurrentLevel f).WellBuilt where
  ready world index l hl := by
    rw [level?_modifyCurrentLevel] at hl
    split at hl
    · obtain ⟨l', hl', rfl⟩ := Option.map_eq_some_iff.1 hl
      exact hf l' (hs.ready world index l' hl')
    · exact hs.ready world index l hl
  declared world hworld := by
    obtain ⟨hkeys, hgraph⟩ := s.worlds_modifyCurrentLevel f
    rw [hkeys] at hworld
    rw [hgraph]
    exact hs.declared world hworld

theorem addWorld (hs : s.WellBuilt) (id : String) : (s.addWorld id).WellBuilt where
  ready world index l hl := by
    rw [level?_addWorld] at hl
    exact hs.ready world index l hl
  declared world hworld := by
    -- The world is added to the game and to the graph, unless it is there.
    have hcases : world ∈ s.game.worlds.keys ∨ world = id := by
      rw [keys_addWorld] at hworld
      split at hworld
      · exact .inl hworld
      · simpa using hworld
    exact mem_appendNew.2 (hcases.imp_left (hs.declared world))

theorem addPath (hs : s.WellBuilt) (source target : String) :
    (s.addPath source target).WellBuilt where
  ready := hs.ready
  declared world hworld :=
    mem_appendNew.2 (.inl (mem_appendNew.2 (.inl (hs.declared world hworld))))

/-- A level is only turned to, and added, if its number is positive. -/
theorem setLevelIndex (hs : s.WellBuilt) (index : Int) :
    (s.setLevelIndex index).session.WellBuilt where
  ready world index' l hl := by
    have hone : (s.setLevelIndex index).session = s ∨ 1 ≤ index := by
      unfold Session.setLevelIndex
      split
      · split
        · exact .inl rfl
        · next hnot => exact .inr (by omega)
      · exact .inl rfl
    rcases hone with hsame | hone
    · rw [hsame] at hl
      exact hs.ready world index' l hl
    · obtain hsame | ⟨world', w, -, -, hlevel⟩ := s.level?_setLevelIndex index
      · rw [hsame] at hl
        exact hs.ready world index' l hl
      · rw [hlevel] at hl
        split at hl
        · cases hlevel' : s.game.level? world' index with
          | none =>
            rw [hlevel', Option.getD_none, Option.some_inj] at hl
            exact hl ▸ Level.ready_fresh hone
          | some l' =>
            rw [hlevel', Option.getD_some, Option.some_inj] at hl
            exact hl ▸ hs.ready world' index l' hlevel'
        · exact hs.ready world index' l hl
  declared world hworld := by
    obtain ⟨hkeys, hgraph⟩ := s.worlds_setLevelIndex index
    rw [hkeys] at hworld
    rw [hgraph]
    exact hs.declared world hworld

theorem setText (hs : s.WellBuilt) (field : TextField) (text : String) :
    (s.setText field text).WellBuilt where
  ready := by
    unfold Session.setText
    split
    · exact hs.ready
    · intro world index l hl
      obtain ⟨w', hw', hl⟩ := Game.level?_eq_some_iff.1 hl
      rw [Game.get?_worlds_modifyWorld] at hw'
      split at hw'
      · obtain ⟨w, hw, rfl⟩ := Option.map_eq_some_iff.1 hw'
        exact hs.ready world index l (Game.level?_eq_some_iff.2 ⟨w, hw, hl⟩)
      · exact hs.ready world index l (Game.level?_eq_some_iff.2 ⟨w', hw', hl⟩)
    · have hmodify := hs.modifyCurrentLevel (f := fun l => { l with texts := l.texts.set field text })
        fun l hl => ⟨hl.one_le, hl.hasKinds⟩
      exact hmodify.ready
  declared world hworld := by
    obtain ⟨hkeys, hgraph, -⟩ := s.worlds_setText field text
    rw [hkeys] at hworld
    rw [hgraph]
    exact hs.declared world hworld

theorem move {t : Session} (h : Move s t) (hs : s.WellBuilt) : t.WellBuilt := by
  cases h with
  | report r =>
    have hmodify := hs.modifyCurrentLevel (f := (·.said (r.message .authoring s.location)))
      fun l hl => ⟨hl.one_le, hl.hasKinds⟩
    exact ⟨hmodify.ready, hmodify.declared⟩
  | document doc => exact ⟨hs.ready, hs.declared⟩
  | mention kind name description => exact ⟨hs.ready, hs.declared⟩
  | setGame name => exact ⟨hs.ready, hs.declared⟩
  | addWorld id => exact hs.addWorld id.val
  | addPath source target => exact hs.addPath source target
  | setLevelIndex index => exact hs.setLevelIndex index
  | setText field text => exact hs.setText field text
  | setListing listing kind names =>
    exact hs.modifyCurrentLevel fun l hl => hl.setListing listing kind (.ofList names)
  | setStatement hints statement =>
    exact hs.modifyCurrentLevel fun l hl => ⟨hl.one_le, hl.hasKinds⟩

/-- Whether a session is well built can be told from what the author has made. -/
theorem of_authored {t : Session} (hs : s.WellBuilt) (h : t.authored = s.authored) :
    t.WellBuilt where
  ready world index l hl := by
    have hlevel := Game.map_level?_of_mapLevels (congrArg Session.game h) world index
    rw [hl, Option.map_some] at hlevel
    obtain ⟨l', hl', heq⟩ := Option.map_eq_some_iff.1 hlevel.symm
    rw [← Level.ready_authored, ← heq, Level.ready_authored]
    exact hs.ready world index l' hl'
  declared world hworld := by
    have hgraph : t.graph = s.graph := (congrArg Session.graph h :)
    rw [keys_of_authored h] at hworld
    rw [hgraph]
    exact hs.declared world hworld

/-- **What directives build** is well built, and no command takes that away. -/
theorem run (hs : s.WellBuilt) (c : Command) : (s.run c).session.WellBuilt :=
  run_of_moves (fun _ _ h hs => hs.move h) (fun _ _ _ hs => ⟨hs.ready, hs.declared⟩)
    (fun t ht => ht.of_authored t.authored_compile)
    (fun _ _ => wellBuilt_start _ _) hs c

end WellBuilt

theorem wellBuilt_after (settings : Settings) (ds : Declarations) (cs : List Command) :
    ((start settings ds).after cs).WellBuilt :=
  after_of_run (fun _ c hs => hs.run c) (wellBuilt_start settings ds) cs

end Session
end Curriculum
