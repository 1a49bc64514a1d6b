import Curriculum.Proofs.Session.Levels
import Curriculum.Proofs.Session.Recompile

/-!
# What is said about a level

A message is written twice: to the log, and to the level that the cursor is at.
Compiling withdraws messages from both, and writes its warnings about previews
to the levels first and to the log when it is done. `Mirrored` says that the two
agree at every place: the level there has the messages of the log that are about
this place, in their order, and where there is no level there are none.

A remark keeps this because the cursor is at a level that is there
(`Mirrored.report`), an attempt at compiling that fails because it has written
no warnings (`Mirrored.compile`).

Main statement: `diagnostics_eq_filter_messages`.
-/

namespace Curriculum.Session

/-- Every level has the messages of the log that are about it, and no message is about a level that
is not there. -/
def Mirrored (s : Session) : Prop :=
  ∀ world index, s.game.seenAt (·.diagnostics) [] world index
    = s.messages.filter (·.location.isAt world index)

/-- The current place is at a level if the cursor is. -/
theorem isAt_location_iff (s : Session) (world : String) (index : Int) :
    s.location.isAt world index = true ↔ s.cursor = .level world index := by
  rw [Location.isAt_iff, location]
  cases s.cursor <;> simp [Cursor.world?, Cursor.level?]

theorem diagnostics_report (s : Session) (r : Remark) (world : String) (index : Int) :
    (s.report r).game.seenAt (·.diagnostics) [] world index
      = if s.cursor = .level world index
        then (s.game.level? world index).elim [] (·.diagnostics ++ [r.message .authoring s.location])
        else s.game.seenAt (·.diagnostics) [] world index := by
  show (s.modifyCurrentLevel (·.said (r.message .authoring s.location))).game.seenAt _ _ _ _ = _
  rw [Game.seenAt, level?_modifyCurrentLevel]
  split
  · cases s.game.level? world index <;> rfl
  · rfl

/-- A remark about the current place is written to the log and to the level there. -/
theorem Mirrored.report {s : Session} (h : s.Mirrored) (hs : s.Settled) (r : Remark) :
    (s.report r).Mirrored := by
  intro world index
  have hmessages : (s.report r).messages = s.messages ++ [r.message .authoring s.location] := rfl
  have hlocation : (r.message .authoring s.location).location = s.location := rfl
  rw [diagnostics_report, hmessages, List.filter_append, ← h world index, List.filter_singleton,
    hlocation]
  split
  · next hc =>
    obtain ⟨l, hl⟩ := Option.isSome_iff_exists.1 (hs.cursor_level world index hc)
    have hat : s.location.isAt world index = true :=
      (s.isAt_location_iff world index).2 hc
    rw [Game.seenAt, hl, hat]
    rfl
  · next hc =>
    have hat : s.location.isAt world index = false :=
      Bool.eq_false_iff.2 (mt (s.isAt_location_iff world index).1 hc)
    rw [hat, cond_false, List.append_nil]

theorem Mirrored.modifyCurrentLevel {s : Session} (h : s.Mirrored) {f : Level → Level}
    (hf : ∀ l, (f l).diagnostics = l.diagnostics) : (s.modifyCurrentLevel f).Mirrored := by
  intro world index
  obtain ⟨worlds, heq⟩ := s.modifyCurrentLevel_eq f
  rw [seenAt_modifyCurrentLevel hf, h, heq]

/-- Moves other than remarks write nothing, neither to the log nor to a level. -/
theorem Mirrored.move {s t : Session} (hmove : Move s t) (hs : s.Settled) (h : s.Mirrored) :
    t.Mirrored := by
  cases hmove with
  | report r => exact h.report hs r
  | document doc => exact h
  | mention kind name description => exact h
  | setGame name => exact h
  | addPath source target => exact h
  | addWorld id =>
    intro world index
    rw [seenAt_addWorld]
    exact h world index
  | setLevelIndex index =>
    intro world index'
    obtain ⟨game, cursor, heq⟩ := s.setLevelIndex_eq index
    rw [seenAt_setLevelIndex (fun _ _ => rfl), h, heq]
  | setText field text =>
    intro world index
    obtain ⟨game, heq⟩ := s.setText_eq field text
    rw [seenAt_setText (fun _ _ => rfl), h, heq]
  | setListing listing kind names => exact h.modifyCurrentLevel fun _ => rfl
  | setStatement hints statement => exact h.modifyCurrentLevel fun _ => rfl

/-! ## Compiling -/

theorem Mirrored.withdraw {s : Session} (h : s.Mirrored) : s.withdraw.Mirrored := by
  intro world index
  have hlevel : s.withdraw.game.level? world index
      = (s.game.level? world index).map Level.withdrawn := by
    rw [game_withdraw, Game.mapLevels_eq_mapLevelsAt, Game.level?_mapLevelsAt]
  have hmessages : s.withdraw.messages.filter (·.location.isAt world index)
      = (s.messages.filter (·.location.isAt world index)).filter (·.stage = .authoring) := by
    rw [Session.withdraw, List.filter_filter, List.filter_filter]
    exact List.filter_congr fun m _ => Bool.and_comm _ _
  rw [hmessages, ← h world index, Game.seenAt, hlevel, Game.seenAt]
  cases s.game.level? world index <;> rfl

/-- No warning about a lemma is about a level. -/
theorem filter_undeclaredLemmas (ds : Declarations) (name : String) (c : Catalogue)
    (world : String) (index : Int) :
    (undeclaredLemmas ds name c).filter (·.location.isAt world index) = [] := by
  refine List.filter_eq_nil_iff.2 fun m hm => ?_
  obtain ⟨i, -, -, rfl⟩ := mem_undeclaredLemmas_iff.1 hm
  rw [Location.isAt_iff]
  exact fun h => absurd h.1 (by simp [Remark.message])

/-- Of what a compilation says, a level has the warning about its own statement. -/
theorem filter_compilation {s : Session} (hs : s.Settled) {bundle : Bundle}
    (hok : s.compilation.result = .ok bundle) (world : String) (index : Int) :
    s.compilation.messages.filter (·.location.isAt world index)
      = (s.withdraw.game.level? world index).elim []
          (·.previewWarning s.declarations s.game.name world) := by
  have hcompilation : s.compilation = _ := Game.compile_of_no_obstacle (Game.compile_ok hok).1 _ _
  rw [hcompilation]
  dsimp only
  rw [List.filter_append, filter_undeclaredLemmas, List.nil_append,
    Game.filter_previewWarnings hs.placed_withdraw]
  rfl

/-- An attempt at compiling that fails has written no warnings, and one that succeeds has written the
same warnings to the levels and to the log. -/
theorem Mirrored.compile {s : Session} (h : s.Mirrored) (hs : s.Settled) :
    s.compile.session.Mirrored := by
  have hwithdrawn := h.withdraw
  intro world index
  cases hobstacle : s.withdraw.game.obstacle s.graph with
  | some failure =>
    have herror : s.compilation.result = .error failure := Game.compile_of_obstacle hobstacle _ _
    -- Whatever kinds have been computed, the levels have the messages they had.
    have hgame : s.compilation.game.mapLevels Level.onlyDiagnostics
        = s.withdraw.game.mapLevels Level.onlyDiagnostics :=
      Game.mapLevels_compile_of_obstacle (fun _ _ _ => rfl) hobstacle _ _
    rw [compile_of_error herror]
    exact (Game.seenAt_of_mapLevels (F := Level.onlyDiagnostics) (fun _ => rfl) hgame [] world
      index).trans (hwithdrawn world index)
  | none =>
    obtain ⟨bundle, hok⟩ := Game.exists_compile_ok_iff.2 hobstacle
    have hcompilation : s.compilation = _ := Game.compile_of_no_obstacle hobstacle _ _
    rw [compile_of_ok hok]
    dsimp only
    rw [List.filter_append, filter_compilation hs hok, ← hwithdrawn world index, hcompilation,
      Game.seenAt, Game.level?_compiled hs.placed_withdraw, Game.seenAt]
    cases s.withdraw.game.level? world index with
    | none => rfl
    | some l =>
      simp only [Option.map_some, Option.elim_some, Level.withPreview]
      rw [Level.setComputeds_eq]
      rfl

/-! ## Runs -/

/-- **The two records.** Every command keeps the levels and the log in agreement. -/
theorem Mirrored.run {s : Session} (h : s.Mirrored) (hs : s.Settled) (c : Command) :
    (s.run c).session.Mirrored := by
  have hboth : (s.run c).session.Settled ∧ (s.run c).session.Mirrored := by
    refine run_of_moves (P := fun s => s.Settled ∧ s.Mirrored) ?_ ?_ ?_ ?_ ⟨hs, h⟩ c
    · exact fun s t hmove h => ⟨h.1.move hmove, h.2.move hmove h.1⟩
    · exact fun s ds bundle h => ⟨⟨h.1.placed, h.1.cursor_level⟩, h.2⟩
    · exact fun s h => ⟨h.1.compile, h.2.compile h.1⟩
    · exact fun s h => ⟨settled_start _ _, fun world index => rfl⟩
  exact hboth.2

theorem mirrored_after (settings : Settings) (ds : Declarations) (cs : List Command) :
    ((start settings ds).after cs).Mirrored := by
  have hboth : ((start settings ds).after cs).Settled ∧ ((start settings ds).after cs).Mirrored :=
    after_of_run (P := fun s => s.Settled ∧ s.Mirrored)
      (fun s c h => ⟨h.1.run c, h.2.run h.1 c⟩)
      ⟨settled_start settings ds, fun world index => rfl⟩ cs
  exact hboth.2

/-- **What is said about a level.** Whatever was done, with or without success, each level has
exactly the messages of the log that are about it, in the order of the log. No message is about a
level that is not there. -/
theorem diagnostics_eq_filter_messages (settings : Settings) (ds : Declarations)
    (cs : List Command) :
    let s := (start settings ds).after cs
    (∀ world index l, s.game.level? world index = some l →
        l.diagnostics = s.messages.filter (·.location.isAt world index))
      ∧ ∀ m ∈ s.messages, ∀ world index, m.location.isAt world index = true →
        (s.game.level? world index).isSome := by
  intro s
  have hmirrored : s.Mirrored := mirrored_after settings ds cs
  constructor
  · intro world index l hl
    rw [← hmirrored world index, Game.seenAt, hl]
    rfl
  · intro m hm world index hat
    have hmem : m ∈ s.game.seenAt (·.diagnostics) [] world index := by
      rw [hmirrored world index]
      exact List.mem_filter.2 ⟨hm, hat⟩
    cases hl : s.game.level? world index with
    | some l => rfl
    | none =>
      rw [Game.seenAt, hl] at hmem
      exact absurd hmem List.not_mem_nil

end Curriculum.Session
