import Mathlib.Data.List.Forall2
import Curriculum.Proofs.Session.Failures
import Curriculum.Proofs.Session.Log
import Curriculum.Proofs.Session.Statements

/-!
# What becomes of a statement

A statement that comes to a level without one passes through four hands: its name
is settled, the checker goes through its script, the hints are taken out of what
the checker reports, and the catalogue is told of its name. All of them write to
the same session, and in between the author is told things, each of them at once
in the log and at the level. But remarks touch nothing else (`tell_eq`). So what
is said along the way can be said at the end, and the rest is one change of the
session: `recordStatement_eq_tell`.

Main statement: `stated_at_level`. It says of every run that comes to a level
without a statement what a statement leaves there: `Stated` has what is recorded,
under which name, with which verdict and which hints, what is declared, and what is
said in which order.
-/

namespace Curriculum

/-! ## Hints and their states -/

namespace Checker

/-- The state that a hint is about. If the hint names a goal, it is the one that the hint describes;
otherwise the one at the start of the statement, with what the hint says about bindings and
hypotheses kept. -/
structure IsStateOf (signature : Signature) (context state : HintContext) : Prop where
  described : context.goal ≠ "" → state = context
  goal : context.goal = "" → state.goal = signature.conclusion.val
  bindings_kept : context.goal = "" → context.bindings ≠ .empty → state.bindings = context.bindings
  /-- Every binder stands for itself. -/
  bindings_filled : context.goal = "" → context.bindings = .empty →
    state.bindings.keys = signature.binders.keys
      ∧ ∀ name ∈ signature.binders.keys, state.bindings.get? name = some name
  hypotheses_kept : context.goal = "" → context.hypotheses ≠ .empty →
    state.hypotheses = context.hypotheses
  hypotheses_filled : context.goal = "" → context.hypotheses = .empty →
    state.hypotheses = signature.binders

/-- What a level keeps of a hint that is reached. -/
structure IsHintOf (signature : Signature) (step : HintStep) (hint : Hint) : Prop where
  strict : hint.strict = step.strict
  hidden : hint.hidden = step.hidden
  /-- Key and text are those of the state that the hint is about. -/
  state : ∃ state, IsStateOf signature step.context state
    ∧ hint.goal = GoalKey.ofContext state ∧ hint.text = HintText.render step.text state

theorem isStateOf_contextOf (signature : Signature) (context : HintContext) :
    IsStateOf signature context (contextOf signature context) := by
  by_cases hgoal : context.goal = ""
  · rw [contextOf, if_pos hgoal]
    constructor
    case described => exact fun h => absurd hgoal h
    case goal => exact fun _ => rfl
    case bindings_kept => exact fun _ h => if_neg (mt OrderedMap.isEmpty_iff.1 h)
    case bindings_filled =>
      intro _ h
      dsimp only
      rw [if_pos (OrderedMap.isEmpty_iff.2 h)]
      refine ⟨OrderedMap.keys_mapWithKey _ _, fun name hname => ?_⟩
      obtain ⟨type, htype⟩ := OrderedMap.mem_keys_iff.1 hname
      rw [OrderedMap.get?_mapWithKey, htype, Option.map_some]
    case hypotheses_kept => exact fun _ h => if_neg (mt OrderedMap.isEmpty_iff.1 h)
    case hypotheses_filled => exact fun _ h => if_pos (OrderedMap.isEmpty_iff.2 h)
  · rw [contextOf, if_neg hgoal]
    constructor
    case described => exact fun _ => rfl
    all_goals exact fun h => absurd h hgoal

theorem isHintOf_hintRecord (signature : Signature) (step : HintStep) :
    IsHintOf signature step (hintRecord signature step).hint where
  strict := rfl
  hidden := rfl
  state := ⟨contextOf signature step.context, isStateOf_contextOf signature step.context, rfl, rfl⟩

end Checker

/-! ## Names -/

/-- The name that an author gave to a statement; an empty one is none. -/
def Exercise.givenName (e : Exercise) : Option NonEmptyText :=
  e.name.bind fun name => if h : name ≠ "" then some ⟨name, h⟩ else none

/-- The name of a statement is the one that its author gave it, if that is free, and otherwise the
name by position; if the author's name is taken, the author is told. -/
theorem resolveName_eq (lookup : String → Option String) (e : Exercise) (game world : String)
    (index : Int) :
    resolveName lookup e.name game world index
      = { theoremName :=
            match e.givenName with
            | some name =>
              if lookup name.val = none then name.val else defaultTheoremName game world index
            | none => defaultTheoremName game world index
          docName := e.givenName
          takenBy := e.givenName.bind fun name => lookup name.val } := by
  unfold resolveName Exercise.givenName
  cases e.name with
  | none => rfl
  | some name =>
    by_cases h : name = ""
    · simp [h]
    · cases hlookup : lookup name <;> simp [h, hlookup]

namespace Session

/-! ## Remarks -/

/-- Says several things about the current place. -/
def tell (s : Session) (remarks : List Remark) : Session := remarks.foldl report s

variable {s : Session} {world : String} {index : Int}

theorem modifyCurrentLevel_of_level (hc : s.cursor = .level world index) (f : Level → Level) :
    s.modifyCurrentLevel f = { s with game := s.game.modifyLevel world index f } := by
  rw [modifyCurrentLevel, hc]

/-- Remarks go to the log and to the level that the cursor is at, and nowhere else. -/
theorem tell_eq (hc : s.cursor = .level world index) (remarks : List Remark) :
    s.tell remarks
      = { s with
          messages := s.messages ++ remarks.map (·.message .authoring s.location)
          game := s.game.modifyLevel world index fun l =>
            { l with
              diagnostics := l.diagnostics ++ remarks.map (·.message .authoring s.location) } } := by
  induction remarks generalizing s with
  | nil =>
    show s = _
    simp only [List.map_nil, List.append_nil, Game.modifyLevel_id]
  | cons r rest ih =>
    have hreport : s.report r
        = { s with
            messages := s.messages ++ [r.message .authoring s.location]
            game := s.game.modifyLevel world index fun l =>
              { l with diagnostics := l.diagnostics ++ [r.message .authoring s.location] } } := by
      rw [report, modifyCurrentLevel_of_level hc]
    have hlocation : (s.report r).location = s.location := by
      rw [hreport]
      rfl
    have htell : s.tell (r :: rest) = (s.report r).tell rest := rfl
    rw [htell, ih (by rw [hreport]; exact hc), hlocation, hreport]
    simp only [Game.modifyLevel_modifyLevel, List.map_cons, List.append_assoc, List.singleton_append]

theorem report?_eq_tell (s : Session) (r : Option Remark) : s.report? r = s.tell r.toList := by
  cases r <;> rfl

theorem reports_eq_tell (s : Session) (l : List (Severity × String)) :
    s.reports l = s.tell (l.map fun m => .fromChecker m.1 m.2) := by
  rw [tell, List.foldl_map]

theorem tell_tell (s : Session) (remarks remarks' : List Remark) :
    (s.tell remarks).tell remarks' = s.tell (remarks ++ remarks') := List.foldl_append.symm

/-- Remarks do not look at what is declared. -/
theorem tell_declarations (hc : s.cursor = .level world index) (remarks : List Remark)
    (ds : Declarations) :
    { s.tell remarks with declarations := ds } = { s with declarations := ds }.tell remarks := by
  rw [tell_eq hc, tell_eq (s := { s with declarations := ds }) hc]
  rfl

/-- Remarks do not look at what is in the catalogue. -/
theorem tell_catalogue (hc : s.cursor = .level world index) (remarks : List Remark)
    (c : Catalogue) :
    { s.tell remarks with catalogue := c } = { s with catalogue := c }.tell remarks := by
  rw [tell_eq hc, tell_eq (s := { s with catalogue := c }) hc]
  rfl

/-- Remarks do not look at the current level, apart from what has been said about it. -/
theorem modifyCurrentLevel_tell (hc : s.cursor = .level world index) (remarks : List Remark)
    {f : Level → Level} (hf : ∀ l ms, f { l with diagnostics := l.diagnostics ++ ms }
      = { f l with diagnostics := (f l).diagnostics ++ ms }) :
    (s.tell remarks).modifyCurrentLevel f
      = { s with game := s.game.modifyLevel world index f }.tell remarks := by
  have hcursor : (s.tell remarks).cursor = .level world index := by
    rw [tell_eq hc]
    exact hc
  have htell := tell_eq (s := { s with game := s.game.modifyLevel world index f }) hc remarks
  rw [htell, modifyCurrentLevel_of_level hcursor, tell_eq hc]
  simp only [Game.modifyLevel_modifyLevel, hf]
  rfl

theorem mention_tell (hc : s.cursor = .level world index) (remarks : List Remark) (kind : Kind)
    (name : NonEmptyText) (description : Option String) :
    (s.tell remarks).mention kind name description
      = { s with catalogue := (s.catalogue.mention kind name description).1 }.tell
          (remarks ++ (s.catalogue.mention kind name description).2.toList) := by
  have hcatalogue : (s.tell remarks).catalogue = s.catalogue := by rw [tell_eq hc]
  rw [mention, keepCatalogue, hcatalogue, tell_catalogue hc, report?_eq_tell, tell_tell]

/-! ## Statements -/

/-- The catalogue once the name of a statement has been mentioned. -/
def catalogueWith (s : Session) (e : Exercise) : Catalogue :=
  match e.givenName with
  | some name => (s.catalogue.mention .lemmas name e.description).1
  | none => s.catalogue

/-- What is said before the catalogue is asked may be said after the level has been written. -/
theorem checked_eq_tell (hc : s.cursor = .level world index) (r : Option Remark)
    (ds : Declarations) (said : List (Severity × String)) {f : Level → Level}
    (hf : ∀ l ms, f { l with diagnostics := l.diagnostics ++ ms }
      = { f l with diagnostics := (f l).diagnostics ++ ms }) :
    (reports { s.report? r with declarations := ds } said).modifyCurrentLevel f
      = { s with declarations := ds, game := s.game.modifyLevel world index f }.tell
          (r.toList ++ said.map fun (m : Severity × String) => Remark.fromChecker m.1 m.2) := by
  rw [report?_eq_tell, tell_declarations hc, reports_eq_tell, tell_tell,
    modifyCurrentLevel_tell (s := { s with declarations := ds }) hc _ hf]

/-- Whatever is said while a statement is recorded may be said in the end. -/
theorem recordStatement_eq_tell (hc : s.cursor = .level world index) (l : Level) (e : Exercise) :
    s.recordStatement l e
      = { s with
          declarations :=
            (Checker.elaborate s.declarations (s.nameFor l e) e.signature e.script).declarations
          catalogue := s.catalogueWith e
          game := s.game.modifyLevel world index fun l' =>
            { l' with
              hints :=
                hintsOf (Checker.elaborate s.declarations (s.nameFor l e) e.signature
                  e.script).diagnostics
              statement :=
                some (s.statementOf l e
                  (resolveName s.declarations.get? e.name s.game.name l.worldId l.index)
                  e.accepted) } }.tell (s.remarksOn l e) := by
  have hdoc : (resolveName s.declarations.get? e.name s.game.name l.worldId l.index).docName
      = e.givenName := by rw [resolveName_eq]
  have hsuccess := (Checker.elaborate_accepted s.declarations (s.nameFor l e) e).1
  rw [recordStatement, remarksOn]
  rw [nameFor] at hsuccess ⊢
  dsimp only
  rw [hdoc, catalogueWith, hsuccess, checked_eq_tell hc _ _ _ fun _ _ => rfl]
  cases e.givenName with
  | none =>
    dsimp only
    rw [List.append_nil]
  | some name =>
    dsimp only
    exact mention_tell (by exact hc) _ .lemmas name e.description

/-! ## What is said about a statement -/

/-- The name that a statement gets at a place. -/
def theoremNameAt (s : Session) (world : String) (index : Int) (e : Exercise) : String :=
  match e.givenName with
  | some name =>
    if s.declarations.get? name.val = none then name.val
    else defaultTheoremName s.game.name world index
  | none => defaultTheoremName s.game.name world index

/-- What is said about the name of a statement: that it is taken, if it is. -/
def remarksOnName (s : Session) (world : String) (index : Int) (e : Exercise) : List Remark :=
  match e.givenName with
  | some name =>
    (s.declarations.get? name.val).toList.map fun type =>
      .nameTaken name.val type (defaultTheoremName s.game.name world index)
  | none => []

/-- What is said about the script of a statement. -/
def remarksOnScript (e : Exercise) : List Remark :=
  (Checker.said e.signature e.script).map fun m => .fromChecker m.1 m.2

/-- What is said about the documentation of a statement: nothing if it has no name or the name is in
the catalogue, and otherwise how it gets there. -/
def remarksOnDocumentation (s : Session) (e : Exercise) : List Remark :=
  match e.givenName with
  | some name =>
    if s.catalogue.contains .lemmas name.val then []
    else
      match e.description with
      | some _ => [.documentedByDescription .lemmas name.val]
      | none => [.undocumented .lemmas name.val]
  | none => []

variable {l : Level}

theorem nameFor_eq (hworld : l.worldId = world) (hindex : l.index = index) (e : Exercise) :
    s.nameFor l e = s.theoremNameAt world index e := by
  rw [nameFor, resolveName_eq, hworld, hindex]
  rfl

/-- First comes the name, then the script, and last the documentation. -/
theorem remarksOn_eq (hworld : l.worldId = world) (hindex : l.index = index) (e : Exercise) :
    s.remarksOn l e
      = s.remarksOnName world index e ++ remarksOnScript e ++ s.remarksOnDocumentation e := by
  have hname : (resolveName s.declarations.get? e.name s.game.name l.worldId l.index).remark.toList
      = s.remarksOnName world index e := by
    rw [resolveName_eq, hworld, hindex, remarksOnName]
    cases e.givenName with
    | none => rfl
    | some name => cases htype : s.declarations.get? name.val <;> simp [NameResolution.remark, htype]
  have hdoc : (resolveName s.declarations.get? e.name s.game.name l.worldId l.index).docName
      = e.givenName := by rw [resolveName_eq]
  rw [remarksOn, hname, hdoc, (Checker.diagnostics_elaborate _ _ e.signature e.script).1,
    remarksOnScript, remarksOnDocumentation]
  congr 1
  cases e.givenName with
  | none => rfl
  | some name =>
    dsimp only
    unfold Catalogue.mention
    split
    · rfl
    · cases e.description <;> rfl

/-! ## Statements at a level -/

/-- What has become of an exercise that was stated at a place: the session `t` after it differs from
the session `s` before it in the declarations, in the catalogue, in the statement, the hints and the
messages of the level, in the log, and in that there is no bundle. -/
structure Stated (s : Session) (world : String) (index : Int) (e : Exercise) (t : Session)
    (statement : Statement) (hints : List Hint) (messages : List Message) : Prop where
  level : ∃ l, s.game.level? world index = some l
    ∧ t.game.level? world index = some { l with
        statement := some statement, hints := hints, diagnostics := l.diagnostics ++ messages }
  session : t = { s with
    declarations := t.declarations
    catalogue := t.catalogue
    game := s.game.modifyLevel world index fun l =>
      { l with
        statement := some statement, hints := hints, diagnostics := l.diagnostics ++ messages }
    messages := s.messages ++ messages
    bundle := none }
  recorded : statement =
    { name := e.name, description := e.description, signature := e.signature
      scope := [s.game.name, world], theoremName := statement.theoremName
      success := statement.success, preview := none }
  /-- A statement is accepted if it has a script and no step of it fails. -/
  success : statement.success ↔ e.script ≠ [] ∧ ∀ step ∈ e.script, step.passes
  theoremName : statement.theoremName = s.theoremNameAt world index e
  declarations : t.declarations =
    if statement.success then s.declarations.insert statement.theoremName e.signature.render
    else s.declarations
  /-- The hints are those among the steps before the first one that fails. -/
  hints : List.Forall₂ (Checker.IsHintOf e.signature)
    ((e.script.takeWhile ScriptStep.passes).filterMap ScriptStep.hint?) hints
  /-- First comes what is said about the name, then about the script, and last about the
  documentation. -/
  messages : messages =
    (s.remarksOnName world index e ++ remarksOnScript e ++ s.remarksOnDocumentation e).map
      (·.message .authoring ⟨some s.game.name, some world, some index⟩)
  catalogue : t.catalogue = s.catalogueWith e

theorem stated_recordStatement (hc : s.cursor = .level world index)
    (hl : s.game.level? world index = some l) (hworld : l.worldId = world) (hindex : l.index = index)
    (e : Exercise) :
    ∃ statement hints messages,
      Stated s world index e ({ s with bundle := none : Session }.recordStatement l e) statement hints
        messages := by
  have hlocation : s.location = ⟨some s.game.name, some world, some index⟩ := by
    rw [location, hc]
    rfl
  have hname := nameFor_eq (s := s) hworld hindex e
  obtain ⟨hsuccess, hdecls⟩ := Checker.elaborate_accepted s.declarations (s.nameFor l e) e
  have hhints := (Checker.diagnostics_elaborate s.declarations (s.nameFor l e) e.signature e.script).2
  have hrecord := recordStatement_eq_tell (s := { s with bundle := none }) hc l e
  rw [tell_eq (by exact hc)] at hrecord
  simp only [Game.modifyLevel_modifyLevel] at hrecord
  refine ⟨s.statementOf l e
      (resolveName s.declarations.get? e.name s.game.name l.worldId l.index) e.accepted,
    hintsOf (Checker.elaborate s.declarations (s.nameFor l e) e.signature e.script).diagnostics,
    (s.remarksOn l e).map (·.message .authoring s.location), ?_⟩
  rw [hrecord]
  constructor
  case level =>
    refine ⟨l, hl, ?_⟩
    dsimp only
    rw [Game.level?_modifyLevel, if_pos ⟨rfl, rfl⟩, hl]
    rfl
  case session => rfl
  case recorded =>
    rw [statementOf, hworld]
  case success =>
    show e.accepted ↔ _
    simp [Exercise.accepted]
  case theoremName => exact hname
  case declarations => exact hdecls
  case hints =>
    rw [hhints, List.forall₂_map_right_iff]
    exact List.forall₂_same.2 fun step _ => Checker.isHintOf_hintRecord e.signature step
  case messages => rw [remarksOn_eq hworld hindex, hlocation]
  case catalogue => rfl

/-- **What becomes of a statement** that comes, in any run, to a level without one: nothing fails,
and the exercise is `Stated`. -/
theorem stated_at_level (settings : Settings) (ds : Declarations) (cs : List Command)
    {world : String} {index : Int}
    (hc : ((start settings ds).after cs).cursor = .level world index)
    (hnone : ((start settings ds).after cs).statementAt world index = none) (e : Exercise) :
    ∃ t statement hints messages,
      ((start settings ds).after cs).process (.declareStatement e) = t.done
        ∧ Stated ((start settings ds).after cs) world index e t statement hints messages := by
  have hs := settled_after settings ds cs
  generalize (start settings ds).after cs = s at hc hnone hs ⊢
  obtain ⟨l, hl⟩ := Option.isSome_iff_exists.1 (hs.cursor_level world index hc)
  obtain ⟨hworld, hindex⟩ := hs.placed.level_place world index l hl
  have hst : l.statement = none := by
    rw [statementAt, Game.seenAt, hl] at hnone
    exact hnone
  have hcurrent : { s with bundle := none : Session }.currentLevel = some l :=
    (currentLevel_of_cursor (s := { s with bundle := none }) hc).trans hl
  obtain ⟨statement, hints, messages, hstated⟩ := stated_recordStatement hc hl hworld hindex e
  refine ⟨_, statement, hints, messages, ?_, hstated⟩
  rw [process_eq_author s (by simp)]
  exact declareStatement_of_level hcurrent hst e

/-- A level without a statement, after one whose statement has a name. -/
def secondLevel : List Command := levelInWorld ++ [
  .directive (.declareStatement (plainExercise (some "T") propP)), .directive (.setLevelIndex 2)]

/-- An exercise with a taken name. It leaves a gap and gives a hint before it fails, and another hint
after that. -/
def gappedExercise : Exercise where
  name := some "T"
  description := some "Two ways."
  signature := ⟨.empty, propQ⟩
  script := [.tactic "sorry", .hint ⟨true, false, .empty, "Think."⟩, .tactic "fail",
    .hint ⟨false, false, .empty, "Too late."⟩]

/-- The exercise with the taken name is stated at the second level under the name of that level, with
the first hint only. -/
theorem gapped_stated_at_level :
    ((start .standard .empty).after secondLevel).cursor = .level "W" 2
      ∧ ((start .standard .empty).after secondLevel).statementAt "W" 2 = none
      ∧ ∃ t statement hints messages,
        ((start .standard .empty).after secondLevel).process (.declareStatement gappedExercise)
            = t.done
          ∧ Stated ((start .standard .empty).after secondLevel) "W" 2 gappedExercise t statement hints
            messages
          ∧ statement.theoremName = "MyGame.W.level2" ∧ hints.length = 1 := by
  have hc : ((start .standard .empty).after secondLevel).cursor = .level "W" 2 := by decide +kernel
  have hnone : ((start .standard .empty).after secondLevel).statementAt "W" 2 = none := by
    decide +kernel
  obtain ⟨t, statement, hints, messages, ht, hstated⟩ :=
    stated_at_level .standard .empty secondLevel hc hnone gappedExercise
  refine ⟨hc, hnone, t, statement, hints, messages, ht, hstated, ?_, ?_⟩
  · rw [hstated.theoremName]
    decide +kernel
  · exact hstated.hints.length_eq.symm.trans (by decide +kernel)

end Session
end Curriculum
