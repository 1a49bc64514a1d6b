import Curriculum.Proofs.Levels
import Curriculum.Proofs.Session.Run

/-!
# What stays declared

A name that an author gives to a statement is only used while it is free. A name
by position is used without asking, because it belongs to the level; it may be
taken nevertheless, by what was declared beforehand or by an author who has
given just that name to another statement. `resolveName_eq_or_free` says that
there is no third case.

What a directive declares is tied to what a level shows by
`declares_iff_recorded`: something is declared exactly if a statement is recorded
as a success where there was none. So a run can be judged by the statements that
succeed in it, `SucceedsAt`.

Main statement: `declarations_stay_iff`. A run keeps the type of every declared
name exactly if no statement that goes by its position succeeds under a name
that is declared with another type, and no two statements succeed under one name
exactly if none that goes by its position succeeds under the name of an earlier
one. `positional_name_taken` is a run in which both happen.
-/

namespace Curriculum

/-- A name is the one that the author gave, and free, or it is the name by position. -/
theorem resolveName_eq_or_free (lookup : String → Option String) (authorName : Option String)
    (game world : String) (index : Int) :
    (resolveName lookup authorName game world index).theoremName
        = defaultTheoremName game world index
      ∨ lookup (resolveName lookup authorName game world index).theoremName = none := by
  unfold resolveName
  dsimp only
  split
  · exact .inl rfl
  · split
    · split
      · next h => exact .inr h
      · exact .inl rfl
    · exact .inl rfl

namespace Session

/-! ## The statement of the current level -/

theorem currentLevel_modifyCurrentLevel (s : Session) (f : Level → Level) :
    (s.modifyCurrentLevel f).currentLevel = s.currentLevel.map f := by
  cases hc : s.cursor with
  | game => simp [modifyCurrentLevel, hc, currentLevel, currentWorld, Cursor.world?]
  | world id =>
    simp only [modifyCurrentLevel, hc, currentLevel, currentWorld, Cursor.world?, Cursor.level?,
      Option.bind_some, Option.bind_none, Option.bind_fun_none, Option.map_none]
  | level world index =>
    have h := s.game.level?_modifyLevel world world index index f
    rw [if_pos ⟨rfl, rfl⟩] at h
    simpa only [modifyCurrentLevel, hc, currentLevel, currentWorld, Cursor.world?, Cursor.level?,
      Option.bind_some, Game.level?] using h

/-- The statement of the current level. -/
def currentStatement (s : Session) : Option Statement := s.currentLevel.bind (·.statement)

@[simp] theorem currentStatement_report (s : Session) (r : Remark) :
    (s.report r).currentStatement = s.currentStatement := by
  show (s.modifyCurrentLevel _).currentLevel.bind _ = _
  rw [currentLevel_modifyCurrentLevel, Option.bind_map]
  rfl

@[simp] theorem isSome_currentLevel_report (s : Session) (r : Remark) :
    (s.report r).currentLevel.isSome = s.currentLevel.isSome := by
  show (s.modifyCurrentLevel _).currentLevel.isSome = _
  rw [currentLevel_modifyCurrentLevel, Option.isSome_map]

@[simp] theorem currentStatement_mention (s : Session) (kind : Kind) (name : NonEmptyText)
    (description : Option String) :
    (s.mention kind name description).currentStatement = s.currentStatement :=
  report?_keeps (F := currentStatement) currentStatement_report _ _

/-- What is recorded at a level is the statement with its name and whether it was accepted. -/
theorem currentStatement_recordStatement {s : Session} {l : Level} (hl : s.currentLevel = some l)
    (e : Exercise) :
    ∃ st, (s.recordStatement l e).currentStatement = some st ∧ st.theoremName = s.nameFor l e
      ∧ st.success = e.accepted ∧ st.signature = e.signature := by
  have hsuccess := (Checker.elaborate_accepted s.declarations
    (resolveName s.declarations.get? e.name s.game.name l.worldId l.index).theoremName e).1
  refine ⟨s.statementOf l e (resolveName s.declarations.get? e.name s.game.name l.worldId l.index)
    e.accepted, ?_, rfl, rfl, rfl⟩
  rw [← hsuccess, recordStatement]
  dsimp only
  have hrecorded : ∀ (t : Session) (hints : List Hint) (st : Statement), t.currentLevel.isSome →
      (t.modifyCurrentLevel fun l =>
        { l with hints := hints, statement := some st }).currentStatement = some st := by
    intro t hints st ht
    obtain ⟨l', hl'⟩ := Option.isSome_iff_exists.1 ht
    rw [currentStatement, currentLevel_modifyCurrentLevel, hl']
    rfl
  -- What is said in between leaves the cursor at the level.
  have hlevel : ∀ (r : Option Remark) (ds : Declarations) (m : List (Severity × String)),
      (reports { s.report? r with declarations := ds } m).currentLevel.isSome := by
    intro r ds m
    rw [reports_keeps (F := fun s => s.currentLevel.isSome) isSome_currentLevel_report]
    show (s.report? r).currentLevel.isSome
    rw [report?_keeps (F := fun s => s.currentLevel.isSome) isSome_currentLevel_report, hl,
      Option.isSome_some]
  split
  · rw [currentStatement_mention]
    exact hrecorded _ _ _ (hlevel _ _ _)
  · exact hrecorded _ _ _ (hlevel _ _ _)

/-- Where there is no level, no statement is recorded. -/
theorem currentStatement_declareStatement_of_no_level {s : Session} (hl : s.currentLevel = none)
    (e : Exercise) : (s.declareStatement e).session.currentStatement = none := by
  have hnone : s.currentStatement = none := by rw [currentStatement, hl, Option.bind_none]
  rw [declareStatement, atLevel]
  split
  · exact hnone
  · simp only [hl, done, currentStatement_report, hnone]

/-- What is declared is what is recorded as a success: a directive declares a name with a type
exactly if it leaves an accepted statement of that name and type where there was none. -/
theorem declares_iff_recorded {s : Session} {e : Exercise} {name type : String} :
    s.declares (.declareStatement e) = some (name, type)
      ↔ s.currentStatement = none
        ∧ ∃ st, (s.declareStatement e).session.currentStatement = some st
          ∧ st.success = true ∧ st.theoremName = name ∧ st.signature.render = type := by
  cases hl : s.currentLevel with
  | none =>
    simp [declares, hl, currentStatement_declareStatement_of_no_level hl]
  | some l =>
    cases hst : l.statement with
    | some st => simp [declares, currentStatement, hl, hst]
    | none =>
      obtain ⟨st, hrec, hname, hsuccess, hsig⟩ := currentStatement_recordStatement hl e
      have hnone : s.currentStatement = none := by rw [currentStatement, hl, Option.bind_some, hst]
      rw [declareStatement_of_level hl hst, done, hrec, declares, hl, Option.bind_some, hst]
      cases h : e.accepted <;> simp [hnone, hname, hsuccess, hsig, h]

/-! ## Names that are taken -/

/-- The name by position at the current level. -/
def positionalName (s : Session) : Option String :=
  s.currentLevel.map fun l => defaultTheoremName s.game.name l.worldId l.index

/-- A name that a directive declares is free, or it is the name by position. -/
theorem positional_or_free_of_declares {s : Session} {d : Directive} {name type : String}
    (h : s.declares d = some (name, type)) :
    s.positionalName = some name ∨ s.declarations.get? name = none := by
  cases d with
  | declareStatement e =>
    obtain ⟨l, hl, h⟩ := Option.bind_eq_some_iff.1 h
    split at h
    · obtain ⟨rfl, -⟩ := Prod.mk.inj (Option.some.inj h)
      rw [positionalName, hl, Option.map_some, Option.some_inj]
      exact (resolveName_eq_or_free _ e.name s.game.name l.worldId l.index).imp Eq.symm id
    · exact absurd h (by simp)
  | _ => exact absurd h (by simp [declares])

/-! ## Runs -/

/-- Every name that is declared at some point of a run has the same type from then on. -/
def KeepsDeclarations (s : Session) (cs : List Command) : Prop :=
  ∀ pre post, pre ++ post <+: cs → ∀ name type,
    (s.after pre).declarations.get? name = some type →
      (s.after (pre ++ post)).declarations.get? name = some type

/-- In a run, the commands `pre` are followed by a statement that is recorded as a success, under
`name` and with a signature that renders to `type`. -/
def SucceedsAt (s : Session) (cs pre : List Command) (name type : String) : Prop :=
  ∃ e st, pre ++ [.directive (.declareStatement e)] <+: cs
    ∧ (s.after pre).currentStatement = none
    ∧ (s.after (pre ++ [.directive (.declareStatement e)])).currentStatement = some st
    ∧ st.success = true ∧ st.theoremName = name ∧ st.signature.render = type

/-- No two successful statements of a run have the same name. -/
def DeclaresOnce (s : Session) (cs : List Command) : Prop :=
  ∀ pre pre' name type type', s.SucceedsAt cs pre name type → s.SucceedsAt cs pre' name type' →
    pre = pre'

/-- The statements that succeed are those that declare something. -/
theorem succeedsAt_iff {s : Session} {cs pre : List Command} {name type : String} :
    s.SucceedsAt cs pre name type
      ↔ ∃ d, pre ++ [.directive d] <+: cs ∧ (s.after pre).declares d = some (name, type) := by
  have hprocess : ∀ e : Exercise,
      (s.after (pre ++ [.directive (.declareStatement e)])).currentStatement
        = (declareStatement { s.after pre with bundle := none } e).session.currentStatement := by
    intro e
    rw [after_concat]
    rfl
  constructor
  · intro h
    obtain ⟨e, st, hpre, hnone, hst, h⟩ := h
    rw [hprocess] at hst
    exact ⟨_, hpre, (declares_iff_recorded (s := { s.after pre with bundle := none })).2
      ⟨hnone, st, hst, h⟩⟩
  · intro h
    obtain ⟨d, hpre, hd⟩ := h
    cases d with
    | declareStatement e =>
      obtain ⟨hnone, st, hst, h⟩ :=
        (declares_iff_recorded (s := { s.after pre with bundle := none })).1 hd
      exact ⟨e, st, hpre, hnone, (hprocess e).trans hst, h⟩
    | _ => exact absurd hd (by simp [declares])

/-- The declarations after one more directive that declares something. -/
theorem declarations_after_concat {s : Session} {pre : List Command} {d : Directive}
    {name type : String} (h : (s.after pre).declares d = some (name, type)) :
    (s.after (pre ++ [.directive d])).declarations
      = (s.after pre).declarations.insert name type := by
  rw [after_concat, run_declarations]
  simp only [declarationsAfter, h]

/-- A name is declared for good, if not always with the same type. -/
theorem isSome_declarations_run {s : Session} {name : String}
    (h : (s.declarations.get? name).isSome) (c : Command) :
    ((s.run c).session.declarations.get? name).isSome := by
  rw [run_declarations]
  cases c with
  | directive d =>
    simp only [declarationsAfter]
    split
    · rw [OrderedMap.get?_insert]
      split
      · rfl
      · exact h
    · exact h
  | _ => exact h

theorem isSome_declarations_after {s : Session} {name : String}
    (h : (s.declarations.get? name).isSome) (cs : List Command) :
    ((s.after cs).declarations.get? name).isSome :=
  after_of_run (P := fun t => (t.declarations.get? name).isSome)
    (fun _ c ht => isSome_declarations_run ht c) h cs

/-- One command keeps the type of a name unless it declares the name with another type. -/
theorem get?_declarations_run {s : Session} {c : Command} {name type : String}
    (h : s.declarations.get? name = some type)
    (hd : ∀ d type', c = .directive d → s.declares d = some (name, type') → type' = type) :
    (s.run c).session.declarations.get? name = some type := by
  rw [run_declarations]
  cases c with
  | directive d =>
    simp only [declarationsAfter]
    split
    · next name' type' heq =>
      rw [OrderedMap.get?_insert]
      split
      · next hname =>
        subst hname
        rw [hd d type' rfl heq]
      · exact h
    · exact h
  | _ => exact h

/-- The types of all names are kept exactly if no statement that goes by its position succeeds under
a name that is declared with another type. -/
theorem keepsDeclarations_iff_positional {s : Session} {cs : List Command} :
    s.KeepsDeclarations cs
      ↔ ∀ pre name type type', s.SucceedsAt cs pre name type →
          (s.after pre).positionalName = some name →
          (s.after pre).declarations.get? name = some type' → type' = type := by
  constructor
  · intro h pre name type type' hat _ htaken
    obtain ⟨d, hpre, hd⟩ := succeedsAt_iff.1 hat
    have hkept := h pre [.directive d] hpre name type' htaken
    rw [declarations_after_concat hd, OrderedMap.get?_insert, if_pos rfl] at hkept
    exact (Option.some.inj hkept).symm
  · intro h pre post hpre name type hname
    -- Induction on what comes after `pre`, which grows by one command at a time.
    induction post generalizing pre with
    | nil => rwa [List.append_nil]
    | cons c post ih =>
      have hpre' : (pre ++ [c]) ++ post <+: cs := by simpa using hpre
      have hc : pre ++ [c] <+: cs := (List.prefix_append _ _).trans hpre'
      have hstep : (s.after (pre ++ [c])).declarations.get? name = some type := by
        rw [after_concat]
        refine get?_declarations_run hname fun d type' hcd hd => ?_
        subst hcd
        rcases positional_or_free_of_declares hd with hpos | hfree
        · exact (h pre name type' type (succeedsAt_iff.2 ⟨d, hc, hd⟩) hpos hname).symm
        · exact absurd (hname.symm.trans hfree) (by simp)
      simpa using ih (pre ++ [c]) hpre' hstep

/-- Of two statements that succeed under one name, the later one finds the name declared. -/
theorem isSome_of_succeedsAt_of_length_lt {s : Session} {cs pre pre' : List Command}
    {name type type' : String} (h : s.SucceedsAt cs pre name type)
    (h' : s.SucceedsAt cs pre' name type') (hlt : pre.length < pre'.length) :
    ((s.after pre').declarations.get? name).isSome := by
  obtain ⟨d, hpre, hd⟩ := succeedsAt_iff.1 h
  obtain ⟨d', hpre', -⟩ := succeedsAt_iff.1 h'
  have hle : pre ++ [.directive d] <+: pre' := by
    refine List.prefix_of_prefix_length_le hpre ((List.prefix_append _ _).trans hpre') ?_
    rw [List.length_append, List.length_singleton]
    omega
  obtain ⟨rest, rfl⟩ := hle
  rw [after_append]
  refine isSome_declarations_after ?_ rest
  rw [declarations_after_concat hd, OrderedMap.get?_insert, if_pos rfl]
  rfl

/-- No name is declared twice exactly if no statement that goes by its position succeeds under a
name of an earlier success. -/
theorem declaresOnce_iff_positional {s : Session} {cs : List Command} :
    s.DeclaresOnce cs
      ↔ ∀ pre pre' name type type', s.SucceedsAt cs pre name type →
          s.SucceedsAt cs pre' name type' → pre.length < pre'.length →
          (s.after pre').positionalName ≠ some name := by
  constructor
  · intro h pre pre' name type type' hat hat' hlt _
    exact absurd (congrArg List.length (h pre pre' name type type' hat hat')) (by omega)
  · have hnot : (∀ pre pre' name type type', s.SucceedsAt cs pre name type →
          s.SucceedsAt cs pre' name type' → pre.length < pre'.length →
          (s.after pre').positionalName ≠ some name) →
        ∀ pre pre' name type type', s.SucceedsAt cs pre name type →
          s.SucceedsAt cs pre' name type' → ¬ pre.length < pre'.length := by
      intro h pre pre' name type type' hat hat' hlt
      obtain ⟨d', -, hd'⟩ := succeedsAt_iff.1 hat'
      have htaken := isSome_of_succeedsAt_of_length_lt hat hat' hlt
      rcases positional_or_free_of_declares hd' with hpos | hfree
      · exact h pre pre' name type type' hat hat' hlt hpos
      · rw [hfree] at htaken
        exact absurd htaken (by simp)
    intro h pre pre' name type type' hat hat'
    obtain ⟨d, hpre, -⟩ := succeedsAt_iff.1 hat
    obtain ⟨d', hpre', -⟩ := succeedsAt_iff.1 hat'
    -- Neither comes before the other, and both are beginnings of the run.
    have hlen : pre.length = pre'.length := by
      have h₁ := hnot h pre pre' name type type' hat hat'
      have h₂ := hnot h pre' pre name type' type hat' hat
      omega
    have hle : pre <+: pre' := List.prefix_of_prefix_length_le
      ((List.prefix_append _ _).trans hpre) ((List.prefix_append _ _).trans hpre') (by omega)
    exact hle.eq_of_length hlen

/-- **When declarations stay.** In a run from a fresh session, with anything declared beforehand,
every declared name keeps its type exactly if no statement that goes by its position succeeds under
a name declared with another type; and no two statements succeed under one name exactly if none that
goes by its position succeeds under the name of an earlier success. -/
theorem declarations_stay_iff (settings : Settings) (ds : Declarations) (cs : List Command) :
    ((start settings ds).KeepsDeclarations cs
      ↔ ∀ pre name type type', (start settings ds).SucceedsAt cs pre name type →
          ((start settings ds).after pre).positionalName = some name →
          ((start settings ds).after pre).declarations.get? name = some type' → type' = type)
    ∧ ((start settings ds).DeclaresOnce cs
      ↔ ∀ pre pre' name type type', (start settings ds).SucceedsAt cs pre name type →
          (start settings ds).SucceedsAt cs pre' name type' → pre.length < pre'.length →
          ((start settings ds).after pre').positionalName ≠ some name) :=
  ⟨keepsDeclarations_iff_positional, declaresOnce_iff_positional⟩

/-- The first level states a theorem under the name by position of the second, and the second level
states one without a name. -/
def takenPosition : List Command := [
  .directive (.addWorld worldW),
  .directive (.setLevelIndex 1),
  .directive (.declareStatement (plainExercise (some "MyGame.W.level2") propP)),
  .directive (.setLevelIndex 2),
  .directive (.declareStatement (plainExercise none propQ))]

/-- A name may be overwritten, and two statements may succeed under one name. -/
theorem positional_name_taken :
    ¬ (start Settings.standard .empty).KeepsDeclarations takenPosition
      ∧ ¬ (start Settings.standard .empty).DeclaresOnce takenPosition := by
  constructor
  · intro h
    have hkept := h (takenPosition.take 3) (takenPosition.drop 3) ⟨[], rfl⟩ "MyGame.W.level2" ": P"
      (by decide +kernel)
    exact absurd hkept (by decide +kernel)
  · intro h
    have hfirst : (start Settings.standard .empty).SucceedsAt takenPosition
        (takenPosition.take 2) "MyGame.W.level2" ": P" :=
      succeedsAt_iff.2 ⟨_, ⟨takenPosition.drop 3, rfl⟩, by decide +kernel⟩
    have hsecond : (start Settings.standard .empty).SucceedsAt takenPosition
        (takenPosition.take 4) "MyGame.W.level2" ": Q" :=
      succeedsAt_iff.2 ⟨_, ⟨[], rfl⟩, by decide +kernel⟩
    exact absurd (congrArg List.length (h _ _ _ _ _ hfirst hsecond)) (by decide)

end Session
end Curriculum
