import Curriculum.Proofs.Session.Levels

/-!
# The statements of a session

`statementAt` is the statement that is recorded at a place. Only directives that
state an exercise change it, and only at the current level and if nothing is
recorded there: `recorded` is the statement that such a directive records, and
`statementAt_author` says that this is all. Compiling looks up previews and
changes nothing else about statements, `cleared_statementAt_compile`.
-/

namespace Curriculum.Session

/-- The statement that is recorded at a place. -/
def statementAt (s : Session) (world : String) (index : Int) : Option Statement :=
  s.game.seenAt (·.statement) none world index

/-- The statement that a directive records at the current level. -/
def recorded (s : Session) : Directive → Option Statement
  | .declareStatement e =>
    s.currentLevel.bind fun l =>
      match l.statement with
      | some _ => none
      | none =>
        some (s.statementOf l e
          (resolveName s.declarations.get? e.name s.game.name l.worldId l.index) e.accepted)
  | _ => none

/-- What a directive records does not depend on the bundle. -/
theorem recorded_dropBundle (s : Session) (d : Directive) :
    { s with bundle := none : Session }.recorded d = s.recorded d := by
  cases d <;> rfl

theorem statementAt_eq_some_iff {s : Session} {world : String} {index : Int} {st : Statement} :
    s.statementAt world index = some st
      ↔ ∃ l, s.game.level? world index = some l ∧ l.statement = some st := by
  rw [statementAt, Game.seenAt]
  cases s.game.level? world index <;> simp

theorem statementAt_start (settings : Settings) (ds : Declarations) (world : String)
    (index : Int) : (start settings ds).statementAt world index = none := rfl

/-- The current level is the level at the place where the cursor is. -/
theorem currentLevel_of_cursor {s : Session} {world : String} {index : Int}
    (h : s.cursor = .level world index) : s.currentLevel = s.game.level? world index := by
  rw [currentLevel, currentWorld, h, Game.level?]
  rfl

/-- Where there is a current level, the cursor is at it. -/
theorem exists_cursor_of_currentLevel {s : Session} {l : Level} (h : s.currentLevel = some l) :
    ∃ world index, s.cursor = .level world index ∧ s.game.level? world index = some l := by
  cases hc : s.cursor with
  | level world index => exact ⟨world, index, rfl, currentLevel_of_cursor hc ▸ h⟩
  | game => simp [currentLevel, currentWorld, hc, Cursor.world?] at h
  | world id => simp [currentLevel, hc, Cursor.level?] at h

/-! ## What leaves statements alone -/

theorem statementAt_report (s : Session) (r : Remark) :
    (s.report r).statementAt = s.statementAt := by
  funext world index
  exact seenAt_report (fun _ _ => rfl) s r world index

theorem statementAt_mention (s : Session) (kind : Kind) (name : NonEmptyText)
    (description : Option String) :
    (s.mention kind name description).statementAt = s.statementAt :=
  report?_keeps (F := statementAt) statementAt_report _ _

theorem statementAt_mentionAll (s : Session) (kind : Kind) (names : List String) :
    (s.mentionAll kind names).session.statementAt = s.statementAt :=
  mentionAll_keeps (F := statementAt) statementAt_mention s kind names

theorem statementAt_modifyCurrentLevel {f : Level → Level}
    (h : ∀ l, (f l).statement = l.statement) (s : Session) :
    (s.modifyCurrentLevel f).statementAt = s.statementAt := by
  funext world index
  exact seenAt_modifyCurrentLevel h s world index

theorem statementAt_atLevel {s : Session} {what : String} {act : Level → Outcome}
    (h : ∀ l, s.currentLevel = some l → (act l).session.statementAt = s.statementAt) :
    (s.atLevel what act).session.statementAt = s.statementAt :=
  atLevel_keeps (P := fun t => t.statementAt = s.statementAt) rfl s.statementAt_report h

theorem statementAt_declareInventory (s : Session) (listing : Listing) (kind : Kind)
    (names : List String) :
    (s.declareInventory listing kind names).session.statementAt = s.statementAt :=
  declareInventory_keeps (P := fun t => t.statementAt = s.statementAt) rfl s.statementAt_report
    (s.statementAt_mentionAll kind names)
    fun t _ h => (statementAt_modifyCurrentLevel (fun l => by rfl) t).trans h

/-! ## What records a statement -/

/-- The cursor, and what is recorded at a place if there is a level. -/
def recordAt (world : String) (index : Int) (s : Session) : Cursor × Option (Option Statement) :=
  (s.cursor, (s.game.level? world index).map (·.statement))

theorem recordAt_report (world : String) (index : Int) (s : Session) (r : Remark) :
    (s.report r).recordAt world index = s.recordAt world index := by
  have hlevel : ((s.report r).game.level? world index).map (·.statement)
      = (s.game.level? world index).map (·.statement) := by
    show ((s.modifyCurrentLevel (·.said _)).game.level? world index).map _ = _
    rw [level?_modifyCurrentLevel]
    split
    · rw [Option.map_map]
      rfl
    · rfl
  obtain ⟨worlds, h⟩ := s.report_eq r
  rw [recordAt, hlevel, h, recordAt]

/-- A statement is written to the current level, after remarks that leave it where it is. -/
theorem statementAt_setStatement {s t : Session} {l : Level} (hl : s.currentLevel = some l)
    {world : String} {index : Int} (h : t.recordAt world index = s.recordAt world index)
    (hints : List Hint) (st : Statement) :
    (t.modifyCurrentLevel fun l => { l with hints := hints, statement := some st }).statementAt
        world index
      = if s.cursor = .level world index then some st else s.statementAt world index := by
  obtain ⟨hcursor, hlevel⟩ := Prod.mk.inj h
  rw [statementAt, Game.seenAt, level?_modifyCurrentLevel, hcursor]
  split
  · next hc =>
    rw [← currentLevel_of_cursor hc, hl] at hlevel
    obtain ⟨l', hl', -⟩ := Option.map_eq_some_iff.1 hlevel
    rw [hl']
    rfl
  · have hjoin : ∀ o : Option Level,
        o.elim none (·.statement) = (o.map (·.statement)).join := by
      intro o
      cases o <;> rfl
    rw [statementAt, Game.seenAt, hjoin, hlevel, hjoin]

/-- A statement that is recorded is recorded where the cursor is. -/
theorem statementAt_recordStatement {s : Session} {l : Level} (hl : s.currentLevel = some l)
    (e : Exercise) (world : String) (index : Int) :
    (s.recordStatement l e).statementAt world index
      = if s.cursor = .level world index
        then some (s.statementOf l e
          (resolveName s.declarations.get? e.name s.game.name l.worldId l.index) e.accepted)
        else s.statementAt world index := by
  have hrecord : ∀ (r : Option Remark) (ds : Declarations) (m : List (Severity × String)),
      recordAt world index (reports { s.report? r with declarations := ds } m)
        = s.recordAt world index := by
    intro r ds m
    rw [reports_keeps (F := recordAt world index) (recordAt_report world index)]
    exact report?_keeps (F := recordAt world index) (recordAt_report world index) s r
  rw [← (Checker.elaborate_accepted s.declarations
    (resolveName s.declarations.get? e.name s.game.name l.worldId l.index).theoremName e).1,
    recordStatement]
  dsimp only
  split
  · rw [statementAt_mention]
    exact statementAt_setStatement hl (hrecord _ _ _) _ _
  · exact statementAt_setStatement hl (hrecord _ _ _) _ _

theorem statementAt_declareStatement (s : Session) (e : Exercise) (world : String) (index : Int) :
    (s.declareStatement e).session.statementAt world index
      = if s.cursor = .level world index
        then (s.recorded (.declareStatement e)).or (s.statementAt world index)
        else s.statementAt world index := by
  cases hl : s.currentLevel with
  | none =>
    have hsame : (s.declareStatement e).session.statementAt = s.statementAt :=
      statementAt_atLevel fun l h => absurd (hl.symm.trans h) (by simp)
    simp [hsame, recorded, hl]
  | some l =>
    cases hst : l.statement with
    | some st =>
      have hsame : (s.declareStatement e).session.statementAt = s.statementAt := by
        refine statementAt_atLevel fun l' h => ?_
        obtain rfl := Option.some.inj (hl.symm.trans h)
        rw [hst]
        exact s.statementAt_report _
      simp [hsame, recorded, hl, hst]
    | none =>
      rw [declareStatement_of_level hl hst, done, statementAt_recordStatement hl]
      simp [recorded, hl, hst]

/-- **What a directive does to statements**: it records one at the current level, or nothing. -/
theorem statementAt_author (s : Session) (d : Directive) (world : String) (index : Int) :
    (s.author d).session.statementAt world index
      = if s.cursor = .level world index then (s.recorded d).or (s.statementAt world index)
        else s.statementAt world index := by
  have hsame : ∀ t : Session, t.statementAt world index = s.statementAt world index →
      t.statementAt world index
        = if s.cursor = .level world index then Option.or none (s.statementAt world index)
          else s.statementAt world index := by
    intro t h
    rw [h, Option.none_or, ite_self]
  cases d with
  | declareStatement e => exact s.statementAt_declareStatement e world index
  | declareInventory listing kind names =>
    exact hsame _ (congrFun (congrFun (s.statementAt_declareInventory listing kind names) world)
      index)
  | registerDoc doc =>
    exact hsame _ (congrFun (congrFun (report?_keeps (F := statementAt) statementAt_report _ _)
      world) index)
  | declareHint step =>
    exact hsame _ (congrFun (congrFun (s.statementAt_report .strayHint) world) index)
  | setLevelIndex i => exact hsame _ (seenAt_setLevelIndex (fun _ _ => rfl) s i world index)
  | setText field text => exact hsame _ (seenAt_setText (fun _ _ => rfl) s field text world index)
  | addWorld id => exact hsame _ (seenAt_addWorld s id.val world index)
  | setGame | addPath | compile => exact hsame _ rfl

/-- Compiling only changes previews. -/
theorem cleared_statementAt_compile (s : Session) (world : String) (index : Int) :
    (s.compile.session.statementAt world index).map Statement.cleared
      = (s.statementAt world index).map Statement.cleared := by
  have hgame : s.compile.session.game.mapLevels Level.onlyStatement
      = s.game.mapLevels Level.onlyStatement := by
    refine mapLevels_game_compile (fun _ _ _ => rfl) (fun ds notFound name id l => ?_)
      (fun _ => rfl) s
    rw [Level.onlyStatement, Level.withPreview, Option.map_map]
    rfl
  have hcleared : ∀ l : Level, l.onlyStatement.statement.map Statement.cleared
      = l.statement.map Statement.cleared := by
    intro l
    rw [Level.onlyStatement, Option.map_map]
    rfl
  rw [statementAt, statementAt, Game.map_seenAt, Game.map_seenAt]
  exact Game.seenAt_of_mapLevels hcleared hgame none world index

/-- A compilation that succeeds looks up every preview by the name of the statement. -/
theorem statementAt_compile {s : Session} (hs : s.Settled) (h : s.compile.failure = none)
    (world : String) (index : Int) :
    s.compile.session.statementAt world index
      = (s.statementAt world index).map fun st =>
          { st with
            preview := s.declarations.shownOr s.settings.notFoundText st.theoremName } := by
  obtain ⟨bundle, hok⟩ := failure_compile_eq_none_iff.1 h
  have hcompilation : s.compilation = _ := Game.compile_of_no_obstacle (Game.compile_ok hok).1 _ _
  rw [statementAt, Game.seenAt, (game_compile s).1, hcompilation,
    Game.level?_compiled hs.placed_withdraw, game_withdraw, Game.mapLevels_eq_mapLevelsAt,
    Game.level?_mapLevelsAt, statementAt, Game.seenAt]
  cases s.game.level? world index with
  | none => rfl
  | some l =>
    simp only [Option.map_some, Option.elim_some, Level.withPreview]
    rw [Level.setComputeds_eq]
    rfl

end Curriculum.Session
