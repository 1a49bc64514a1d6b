import Curriculum.Proofs.Naming
import Curriculum.Proofs.Session.Exercises
import Curriculum.Proofs.Session.Integrity

/-!
# Statements without names of their own

A statement whose author gives it no name goes by its position: by the game, the
world and the level at which it stands. The name of the game may change on the
way, and a level may be visited again, but a level keeps its first statement
(`isSome_statementAt_after`). So two statements of a run stand at different levels
of different worlds or of the same one; worlds are called by identifiers
(`named_after`), and then the names by position differ, whatever the game was
called at the time.

Main statement: `positional_names_differ`, on the names alone and on any two
statements without names between which the session does not start again.
-/

namespace Curriculum.Session

/-! ## Worlds have identifiers -/

/-- The worlds of a game are called by identifiers. -/
def Named (s : Session) : Prop := ∀ world ∈ s.game.worlds.keys, isIdentifier world = true

/-- Directives add a world by its identifier or none at all. -/
theorem Move.keys {s t : Session} (h : Move s t) :
    t.game.worlds.keys = s.game.worlds.keys
      ∨ ∃ id : Identifier, t.game.worlds.keys = s.game.worlds.keys ++ [id.val] := by
  cases h with
  | report r => exact .inl (s.worlds_modifyCurrentLevel _).1
  | addWorld id =>
    rw [keys_addWorld]
    split
    · exact .inl rfl
    · exact .inr ⟨id, rfl⟩
  | setLevelIndex index => exact .inl (s.worlds_setLevelIndex index).1
  | setText field text => exact .inl (s.worlds_setText field text).1
  | setListing listing kind names => exact .inl (s.worlds_modifyCurrentLevel _).1
  | setStatement hints statement => exact .inl (s.worlds_modifyCurrentLevel _).1
  | document | mention | setGame | addPath => exact .inl rfl

theorem Named.move {s t : Session} (h : Move s t) (hs : s.Named) : t.Named := by
  intro world hworld
  rcases h.keys with hsame | ⟨id, hkeys⟩
  · exact hs world (hsame ▸ hworld)
  · rw [hkeys, List.mem_append, List.mem_singleton] at hworld
    rcases hworld with hworld | rfl
    · exact hs world hworld
    · exact id.property

theorem named_after (settings : Settings) (ds : Declarations) (cs : List Command) :
    ((start settings ds).after cs).Named := by
  have hstart : ∀ settings ds, (start settings ds).Named := fun _ _ _ h => absurd h List.not_mem_nil
  refine after_of_run (fun s c hs => ?_) (hstart settings ds) cs
  refine run_of_moves (fun _ _ h hs => hs.move h) (fun _ _ _ hs => hs) (fun s hs => ?_)
    (fun _ _ => hstart _ _) hs c
  intro world hworld
  rw [keys_of_authored s.authored_compile] at hworld
  exact hs world hworld

/-! ## Levels keep their statements -/

variable {s : Session} {world : String} {index : Int}

/-- A level has its statement until the session starts again. -/
theorem isSome_statementAt_run (h : (s.statementAt world index).isSome) {c : Command}
    (hc : c ≠ .reset) : ((s.run c).session.statementAt world index).isSome := by
  have hcompile : (s.compile.session.statementAt world index).isSome := by
    have hcleared := congrArg Option.isSome (s.cleared_statementAt_compile world index)
    rw [Option.isSome_map, Option.isSome_map] at hcleared
    exact hcleared.trans h
  cases c with
  | directive d =>
    by_cases hd : d = .compile
    · subst hd
      exact hcompile
    · show ((s.process d).session.statementAt world index).isSome
      rw [process_eq_author s hd, statementAt_author]
      split
      · rw [Option.isSome_or]
        exact Bool.or_eq_true_iff.2 (.inr h)
      · exact h
  | other v => exact h
  | compile => exact hcompile
  | reset => exact absurd rfl hc

theorem isSome_statementAt_after (h : (s.statementAt world index).isSome) {cs : List Command}
    (hcs : Command.reset ∉ cs) : ((s.after cs).statementAt world index).isSome := by
  induction cs generalizing s with
  | nil => exact h
  | cons c rest ih =>
    rw [List.mem_cons, not_or] at hcs
    exact ih (isSome_statementAt_run h (Ne.symm hcs.1)) hcs.2

/-! ## Statements of a run -/

/-- In a run, the commands `pre` are followed by an exercise that puts a statement to a place where
there was none. -/
def StatesAt (s : Session) (cs pre : List Command) (e : Exercise) (world : String) (index : Int)
    (st : Statement) : Prop :=
  pre ++ [.directive (.declareStatement e)] <+: cs
    ∧ (s.after pre).statementAt world index = none
    ∧ (s.after (pre ++ [.directive (.declareStatement e)])).statementAt world index = some st

/-- What is recorded of an exercise without a name goes by the position of the current level. -/
theorem theoremName_of_recorded {e : Exercise} {st : Statement}
    (h : s.recorded (.declareStatement e) = some st) (he : e.givenName = none) :
    ∃ l, s.currentLevel = some l
      ∧ st.theoremName = defaultTheoremName s.game.name l.worldId l.index := by
  obtain ⟨l, hl, h⟩ := Option.bind_eq_some_iff.1 h
  refine ⟨l, hl, ?_⟩
  cases hst : l.statement with
  | some st' =>
    rw [hst] at h
    exact absurd h (by simp)
  | none =>
    rw [hst] at h
    rw [← Option.some.inj h, statementOf, resolveName_eq, he]

/-- A statement without a name goes by its position, in a world that is called by an identifier. -/
theorem StatesAt.theoremName {settings : Settings} {ds : Declarations} {cs pre : List Command}
    {e : Exercise} {st : Statement} (h : (start settings ds).StatesAt cs pre e world index st)
    (he : e.givenName = none) :
    isIdentifier world = true
      ∧ st.theoremName
        = defaultTheoremName ((start settings ds).after pre).game.name world index := by
  obtain ⟨-, hnone, hst⟩ := h
  have hplaced := (settled_after settings ds pre).placed
  have hnamed := named_after settings ds pre
  rw [after_concat] at hst
  generalize (start settings ds).after pre = s at hnone hst hplaced hnamed ⊢
  have hauthor := statementAt_author { s with bundle := none } (.declareStatement e) world index
  rw [recorded_dropBundle] at hauthor
  replace hst := hauthor.symm.trans hst
  split at hst
  · next hc =>
    have hrecorded : s.recorded (.declareStatement e) = some st := by
      rcases Option.or_eq_some_iff.1 hst with hrecorded | ⟨-, hthere⟩
      · exact hrecorded
      · exact absurd (hnone.symm.trans hthere) (by simp)
    obtain ⟨l, hl, hname⟩ := theoremName_of_recorded hrecorded he
    rw [currentLevel_of_cursor (s := s) hc] at hl
    obtain ⟨w, hw, -⟩ := Game.level?_eq_some_iff.1 hl
    obtain ⟨hworld, hindex⟩ := hplaced.level_place world index l hl
    rw [hworld, hindex] at hname
    exact ⟨hnamed world (OrderedMap.mem_keys_iff.2 ⟨w, hw⟩), hname⟩
  · exact absurd (hnone.symm.trans hst) (by simp)

/-- After a statement, none is put to the same place until the session starts again. -/
theorem StatesAt.not_again {cs pre pre' : List Command} {e e' : Exercise} {st st' : Statement}
    (h : s.StatesAt cs pre e world index st) (hlt : pre.length < pre'.length)
    (hreset : Command.reset ∉ pre'.drop pre.length) :
    ¬ s.StatesAt cs pre' e' world index st' := by
  intro h'
  -- The later statement comes after the earlier one and perhaps other commands.
  have hle : pre ++ [.directive (.declareStatement e)] <+: pre' := by
    refine List.prefix_of_prefix_length_le h.1 ((List.prefix_append _ _).trans h'.1) ?_
    rw [List.length_append, List.length_singleton]
    omega
  obtain ⟨between, rfl⟩ := hle
  rw [List.append_assoc, List.drop_left, List.mem_append, not_or] at hreset
  have hthere : ((s.after (pre ++ [.directive (.declareStatement e)])).statementAt world
      index).isSome := by rw [h.2.2, Option.isSome_some]
  have hstays := isSome_statementAt_after hthere hreset.2
  rw [← after_append, h'.2.1] at hstays
  exact absurd hstays (by simp)

/-- **Names by position.** They are the same only for the same game, world and level, whatever the
game is called. So of two statements of a run that have no names of their own, and between which the
session does not start again, the later one goes by another name, even if the game was renamed. -/
theorem positional_names_differ (settings : Settings) (ds : Declarations) :
    (∀ (game game' : String) (world world' : Identifier) (index index' : Int),
        defaultTheoremName game world.val index = defaultTheoremName game' world'.val index' →
        game = game' ∧ world = world' ∧ index = index')
      ∧ ∀ cs pre pre' e e' world world' index index' st st',
        (start settings ds).StatesAt cs pre e world index st →
        (start settings ds).StatesAt cs pre' e' world' index' st' →
        e.givenName = none → e'.givenName = none →
        pre.length < pre'.length → Command.reset ∉ pre'.drop pre.length →
        st.theoremName ≠ st'.theoremName := by
  refine ⟨fun _ _ _ _ _ _ h => defaultTheoremName_inj.1 h, ?_⟩
  intro cs pre pre' e e' world world' index index' st st' h h' he he' hlt hreset hsame
  obtain ⟨hworld, hname⟩ := h.theoremName he
  obtain ⟨hworld', hname'⟩ := h'.theoremName he'
  rw [hname, hname'] at hsame
  obtain ⟨-, heq, rfl⟩ := (@defaultTheoremName_inj _ _ ⟨world, hworld⟩ ⟨world', hworld'⟩ _ _).1 hsame
  obtain rfl : world = world' := congrArg Subtype.val heq
  exact h.not_again hlt hreset h'

/-- Two levels of a world without names for their statements. In between the game gets another
name. -/
def renamedOnTheWay : List Command := [
  .directive (.addWorld worldW),
  .directive (.setLevelIndex 1),
  .directive (.declareStatement (plainExercise none propP)),
  .directive (.setGame worldV),
  .directive (.addWorld worldW),
  .directive (.setLevelIndex 2),
  .directive (.declareStatement (plainExercise (some "") propQ))]

/-- In a game that is at first called like a level of the game to come, the names differ. -/
theorem names_renamedOnTheWay :
    let s := start { Settings.standard with defaultGame := "V.W.level2" } .empty
    ∃ st st', s.StatesAt renamedOnTheWay (renamedOnTheWay.take 2) (plainExercise none propP) "W" 1 st
      ∧ s.StatesAt renamedOnTheWay (renamedOnTheWay.take 6) (plainExercise (some "") propQ) "W" 2 st'
      ∧ st.theoremName = "V.W.level2.W.level1" ∧ st'.theoremName = "V.W.level2"
      ∧ st.theoremName ≠ st'.theoremName := by
  intro s
  have hname : ((s.after (renamedOnTheWay.take 3)).statementAt "W" 1).map (·.theoremName)
      = some "V.W.level2.W.level1" := by decide +kernel
  have hname' : ((s.after renamedOnTheWay).statementAt "W" 2).map (·.theoremName)
      = some "V.W.level2" := by decide +kernel
  obtain ⟨st, hst, hname⟩ := Option.map_eq_some_iff.1 hname
  obtain ⟨st', hst', hname'⟩ := Option.map_eq_some_iff.1 hname'
  have h : s.StatesAt renamedOnTheWay (renamedOnTheWay.take 2) (plainExercise none propP) "W" 1 st :=
    ⟨⟨renamedOnTheWay.drop 3, rfl⟩, by decide +kernel, hst⟩
  have h' : s.StatesAt renamedOnTheWay (renamedOnTheWay.take 6) (plainExercise (some "") propQ) "W" 2
      st' := ⟨⟨[], rfl⟩, by decide +kernel, hst'⟩
  refine ⟨st, st', h, h', hname, hname', ?_⟩
  exact (positional_names_differ _ _).2 _ _ _ _ _ _ _ _ _ _ _ h h' rfl rfl (by decide)
    (by simp [renamedOnTheWay])

end Curriculum.Session
