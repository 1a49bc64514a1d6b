import Mathlib.Logic.Relation
import Curriculum.Session
import Curriculum.Proofs.Checker

/-!
# Runs of a session

`after` is a session after a list of commands, each of which may fail without
stopping the rest. What a directive can do to a session is said once, by
`author_moves`: it makes a few moves of the kinds that `Move` lists, and the
only thing besides is that a statement may be declared in the middle of them.
`declares` says which statement that is. Whatever every move leaves alone is
therefore left alone by every directive, `author_keeps`, and whatever every move
preserves holds along every run, `run_of_moves` and `after_of_run`.
-/

namespace Curriculum

namespace Session

/-! ## What is declared -/

/-- The name that a statement gets at a level. -/
def nameFor (s : Session) (l : Level) (e : Exercise) : String :=
  (resolveName s.declarations.get? e.name s.game.name l.worldId l.index).theoremName

/-- The name and the type that a directive declares. Only statements declare something: those that
come to a level without a statement and are accepted. -/
def declares (s : Session) : Directive → Option (String × String)
  | .declareStatement e =>
    s.currentLevel.bind fun l =>
      if l.statement.isNone && e.accepted then some (s.nameFor l e, e.signature.render) else none
  | _ => none

/-- The declarations after a directive. -/
def declarationsAfter (s : Session) (d : Directive) : Declarations :=
  match s.declares d with
  | some (name, type) => s.declarations.insert name type
  | none => s.declarations

/-! ## Moves -/

/-- The kinds of changes that directives are made of. -/
inductive Move : Session → Session → Prop where
  | report (s : Session) (r : Remark) : Move s (s.report r)
  | document (s : Session) (doc : Doc) :
    Move s { s with catalogue := (s.catalogue.register doc).1 }
  | mention (s : Session) (kind : Kind) (name : NonEmptyText) (description : Option String) :
    Move s { s with catalogue := (s.catalogue.mention kind name description).1 }
  | setGame (s : Session) (name : Identifier) : Move s (s.setGame name.val)
  | addWorld (s : Session) (id : Identifier) : Move s (s.addWorld id.val)
  | addPath (s : Session) (source target : String) : Move s (s.addPath source target)
  | setLevelIndex (s : Session) (index : Int) : Move s (s.setLevelIndex index).session
  | setText (s : Session) (field : TextField) (text : String) : Move s (s.setText field text)
  | setListing (s : Session) (listing : Listing) (kind : Kind) (names : List String) :
    Move s (s.modifyCurrentLevel fun l =>
      { l with inventory := l.inventory.modify kind (·.setListing listing (.ofList names)) })
  | setStatement (s : Session) (hints : List Hint) (statement : Statement) :
    Move s (s.modifyCurrentLevel fun l => { l with hints := hints, statement := some statement })

/-- Any number of moves. -/
abbrev Moves : Session → Session → Prop := Relation.ReflTransGen Move

theorem moves_report? (s : Session) (r : Option Remark) : Moves s (s.report? r) := by
  cases r with
  | none => exact .refl
  | some r => exact .single (.report s r)

theorem moves_mention (s : Session) (kind : Kind) (name : NonEmptyText)
    (description : Option String) : Moves s (s.mention kind name description) :=
  .head (.mention s kind name description) (moves_report? _ _)

theorem moves_mentionAll (s : Session) (kind : Kind) (names : List String) :
    Moves s (s.mentionAll kind names).session := by
  induction names generalizing s with
  | nil => exact .refl
  | cons name rest ih =>
    unfold mentionAll
    split
    · exact (moves_mention s kind _ none).trans (ih _)
    · exact .refl

/-- Says everything that the checker has to say. -/
abbrev reports (s : Session) (l : List (Severity × String)) : Session :=
  l.foldl (fun s (severity, text) => s.report (.fromChecker severity text)) s

theorem reports_cons (s : Session) (m : Severity × String) (rest : List (Severity × String)) :
    s.reports (m :: rest) = (s.report (.fromChecker m.1 m.2)).reports rest := rfl

/-- What remarks leave as it is, remarks that may be missing leave as it is. -/
theorem report?_keeps {α : Type u} {F : Session → α} (h : ∀ s r, F (s.report r) = F s)
    (s : Session) (r : Option Remark) : F (s.report? r) = F s := by
  cases r with
  | none => rfl
  | some r => exact h s r

/-- What remarks leave as it is, the checker leaves as it is. -/
theorem reports_keeps {α : Type u} {F : Session → α} (h : ∀ s r, F (s.report r) = F s)
    (s : Session) (l : List (Severity × String)) : F (s.reports l) = F s := by
  induction l generalizing s with
  | nil => rfl
  | cons m rest ih => rw [reports_cons, ih, h]

/-- What mentioning a name leaves as it is, mentioning several names leaves as it is. -/
theorem mentionAll_keeps {α : Type u} {F : Session → α}
    (h : ∀ s kind name description, F (s.mention kind name description) = F s) (s : Session)
    (kind : Kind) (names : List String) : F (s.mentionAll kind names).session = F s := by
  induction names generalizing s with
  | nil => rfl
  | cons name rest ih =>
    rw [mentionAll]
    split
    · rw [ih, h]
    · rfl

theorem moves_reports (s : Session) (l : List (Severity × String)) : Moves s (s.reports l) := by
  induction l generalizing s with
  | nil => exact .refl
  | cons m rest ih => exact .head (.report s _) (ih _)

/-- What is done at the current level; where there is none, there is a remark or nothing happens. -/
theorem atLevel_keeps {P : Session → Prop} {s : Session} {what : String} {act : Level → Outcome}
    (hs : P s) (hreport : ∀ r, P (s.report r))
    (hact : ∀ l, s.currentLevel = some l → P (act l).session) :
    P (s.atLevel what act).session := by
  unfold atLevel
  split
  · exact hs
  · split
    · exact hreport _
    · next l hl => exact hact l hl

theorem moves_atLevel {s : Session} {what : String} {act : Level → Outcome}
    (h : ∀ l, s.currentLevel = some l → Moves s (act l).session) :
    Moves s (s.atLevel what act).session :=
  atLevel_keeps .refl (fun r => .single (.report s r)) h

/-- What holds after names are mentioned, and stays when they are listed, holds after both. -/
theorem declareInventory_keeps {P : Session → Prop} {s : Session} {listing : Listing} {kind : Kind}
    {names : List String} (hs : P s) (hreport : ∀ r, P (s.report r))
    (hmention : P (s.mentionAll kind names).session)
    (hlisting : ∀ t, s.mentionAll kind names = t.done → P t → P (t.modifyCurrentLevel fun l =>
      { l with inventory := l.inventory.modify kind (·.setListing listing (.ofList names)) })) :
    P (s.declareInventory listing kind names).session := by
  refine atLevel_keeps hs hreport fun l _ => ?_
  split
  · next t failure heq =>
    rw [heq] at hmention
    exact hmention
  · next t heq =>
    rw [heq] at hmention
    exact hlisting t heq hmention

theorem moves_declareInventory (s : Session) (listing : Listing) (kind : Kind)
    (names : List String) : Moves s (s.declareInventory listing kind names).session :=
  declareInventory_keeps .refl (fun r => .single (.report s r)) (moves_mentionAll s kind names)
    fun t _ h => h.tail (.setListing t listing kind names)

/-- A statement is recorded by moves, and declared in the middle of them if it is accepted. -/
theorem recordStatement_moves (s : Session) (l : Level) (e : Exercise) :
    ∃ t, Moves s t ∧
      Moves { t with declarations :=
        if e.accepted then s.declarations.insert (s.nameFor l e) e.signature.render
        else s.declarations } (s.recordStatement l e) := by
  refine ⟨_, moves_report? s (resolveName s.declarations.get? e.name s.game.name l.worldId
    l.index).remark, ?_⟩
  rw [nameFor, ← (Checker.elaborate_accepted s.declarations _ e).2, recordStatement]
  dsimp only
  split
  · exact ((moves_reports _ _).tail (.setStatement _ _ _)).trans (moves_mention _ _ _ _)
  · exact (moves_reports _ _).tail (.setStatement _ _ _)

theorem declarationsAfter_of_declares_eq_none {s : Session} {d : Directive}
    (h : s.declares d = none) : s.declarationsAfter d = s.declarations := by
  rw [declarationsAfter, h]

/-- What has no statement to declare can be done by moves alone. -/
theorem exists_moves_of_declares_eq_none {s s' : Session} {d : Directive}
    (hd : s.declares d = none) (h : Moves s s') :
    ∃ t, Moves s t ∧ Moves { t with declarations := s.declarationsAfter d } s' :=
  ⟨s, .refl, by rw [declarationsAfter_of_declares_eq_none hd]; exact h⟩

/-- A level without a statement gets one. -/
theorem declareStatement_of_level {s : Session} {l : Level} (hl : s.currentLevel = some l)
    (hst : l.statement = none) (e : Exercise) :
    s.declareStatement e = (s.recordStatement l e).done := by
  obtain ⟨w, hw, -⟩ := Option.bind_eq_some_iff.1 hl
  simp only [declareStatement, atLevel, hw, hl, hst]

theorem declareStatement_moves (s : Session) (e : Exercise) :
    ∃ t, Moves s t ∧
      Moves { t with declarations := s.declarationsAfter (.declareStatement e) }
        (s.declareStatement e).session := by
  cases hl : s.currentLevel with
  | none =>
    refine exists_moves_of_declares_eq_none (by simp only [declares, hl, Option.bind_none]) ?_
    exact moves_atLevel fun l h => absurd (hl.symm.trans h) (by simp)
  | some l =>
    cases hst : l.statement with
    | some st =>
      refine exists_moves_of_declares_eq_none ?_ (moves_atLevel fun l' h => ?_)
      · simp only [declares, hl, hst, Option.bind_some, Option.isNone_some, Bool.false_and,
          Bool.false_eq_true, if_false]
      · obtain rfl := Option.some.inj (hl.symm.trans h)
        simp only [hst]
        exact .single (.report s _)
    | none =>
      have hdecls : s.declarationsAfter (.declareStatement e)
          = if e.accepted then s.declarations.insert (s.nameFor l e) e.signature.render
            else s.declarations := by
        simp only [declarationsAfter, declares, hl, hst, Option.bind_some, Option.isNone_none,
          Bool.true_and]
        cases e.accepted <;> rfl
      rw [declareStatement_of_level hl hst, hdecls]
      exact recordStatement_moves s l e

/-- **What a directive can do**: moves, with at most one declaration in the middle of them. -/
theorem author_moves (s : Session) (d : Directive) :
    ∃ t, Moves s t ∧
      Moves { t with declarations := s.declarationsAfter d } (s.author d).session := by
  cases d with
  | declareStatement e => exact declareStatement_moves s e
  | setGame name => exact exists_moves_of_declares_eq_none rfl (.single (.setGame s name))
  | addWorld id => exact exists_moves_of_declares_eq_none rfl (.single (.addWorld s id))
  | addPath source target =>
    exact exists_moves_of_declares_eq_none rfl (.single (.addPath s source target))
  | setLevelIndex index =>
    exact exists_moves_of_declares_eq_none rfl (.single (.setLevelIndex s index))
  | setText field text =>
    exact exists_moves_of_declares_eq_none rfl (.single (.setText s field text))
  | registerDoc doc =>
    exact exists_moves_of_declares_eq_none rfl (.head (.document s doc) (moves_report? _ _))
  | declareInventory listing kind names =>
    exact exists_moves_of_declares_eq_none rfl (moves_declareInventory s listing kind names)
  | declareHint step => exact exists_moves_of_declares_eq_none rfl (.single (.report s _))
  | compile => exact exists_moves_of_declares_eq_none rfl .refl

/-! ## What stays -/

theorem modifyCurrentLevel_eq (s : Session) (f : Level → Level) :
    ∃ worlds, s.modifyCurrentLevel f = { s with game := { s.game with worlds := worlds } } := by
  unfold modifyCurrentLevel
  split
  · exact ⟨_, rfl⟩
  · exact ⟨s.game.worlds, rfl⟩

theorem report_eq (s : Session) (r : Remark) :
    ∃ worlds, s.report r
      = { s with
          game := { s.game with worlds := worlds }
          messages := s.messages ++ [r.message .authoring s.location] } := by
  obtain ⟨worlds, h⟩ := s.modifyCurrentLevel_eq fun l =>
    { l with diagnostics := l.diagnostics ++ [r.message .authoring s.location] }
  exact ⟨worlds, by rw [report, h]⟩

theorem setLevelIndex_eq (s : Session) (index : Int) :
    ∃ game cursor, (s.setLevelIndex index).session = { s with game := game, cursor := cursor } := by
  unfold setLevelIndex
  split
  · split
    · exact ⟨s.game, s.cursor, rfl⟩
    · exact ⟨_, _, rfl⟩
  · exact ⟨s.game, s.cursor, rfl⟩

theorem setText_eq (s : Session) (field : TextField) (text : String) :
    ∃ game, s.setText field text = { s with game := game } := by
  unfold setText
  split
  · exact ⟨_, rfl⟩
  · exact ⟨_, rfl⟩
  · obtain ⟨worlds, h⟩ := s.modifyCurrentLevel_eq fun l =>
      { l with texts := l.texts.set field text }
    exact ⟨_, h⟩

theorem compile_eq (s : Session) :
    ∃ game catalogue messages bundle, s.compile.session
      = { s with
          game := game, catalogue := catalogue, messages := messages, bundle := bundle } := by
  unfold compile
  dsimp only
  split
  · exact ⟨_, _, _, _, rfl⟩
  · exact ⟨_, _, _, _, rfl⟩

/-- What a move may change. The catalogue stays as it is, unless one name is documented or
mentioned. -/
theorem Move.changes {s t : Session} (h : Move s t) :
    ∃ game graph catalogue cursor messages,
      t = { s with
          game := game, graph := graph, catalogue := catalogue, cursor := cursor
          messages := messages }
        ∧ (catalogue = s.catalogue
          ∨ (∃ doc, catalogue = (s.catalogue.register doc).1)
          ∨ ∃ kind name description,
            catalogue = (s.catalogue.mention kind name description).1) := by
  cases h with
  | document doc => exact ⟨_, _, _, _, _, rfl, .inr (.inl ⟨doc, rfl⟩)⟩
  | mention kind name description =>
    exact ⟨_, _, _, _, _, rfl, .inr (.inr ⟨kind, name, description, rfl⟩)⟩
  | report r =>
    obtain ⟨worlds, h⟩ := s.report_eq r
    exact ⟨_, _, _, _, _, h, .inl rfl⟩
  | setLevelIndex index =>
    obtain ⟨game, cursor, h⟩ := s.setLevelIndex_eq index
    exact ⟨_, _, _, _, _, h, .inl rfl⟩
  | setText field text =>
    obtain ⟨game, h⟩ := s.setText_eq field text
    exact ⟨_, _, _, _, _, h, .inl rfl⟩
  | setListing listing kind names =>
    obtain ⟨worlds, h⟩ := s.modifyCurrentLevel_eq fun l =>
      { l with inventory := l.inventory.modify kind (·.setListing listing (.ofList names)) }
    exact ⟨_, _, _, _, _, h, .inl rfl⟩
  | setStatement hints statement =>
    obtain ⟨worlds, h⟩ := s.modifyCurrentLevel_eq fun l =>
      { l with hints := hints, statement := some statement }
    exact ⟨_, _, _, _, _, h, .inl rfl⟩
  | setGame | addWorld | addPath => exact ⟨_, _, _, _, _, rfl, .inl rfl⟩

/-- No move touches the settings, the declarations or the bundle. -/
theorem Move.keeps {s t : Session} (h : Move s t) :
    t.settings = s.settings ∧ t.declarations = s.declarations ∧ t.bundle = s.bundle := by
  obtain ⟨_, _, _, _, _, rfl, -⟩ := h.changes
  exact ⟨rfl, rfl, rfl⟩

theorem Moves.keeps {s t : Session} (h : Moves s t) :
    t.settings = s.settings ∧ t.declarations = s.declarations ∧ t.bundle = s.bundle := by
  induction h with
  | refl => exact ⟨rfl, rfl, rfl⟩
  | tail _ hmove ih =>
    obtain ⟨hs, hd, hb⟩ := hmove.keeps
    exact ⟨hs.trans ih.1, hd.trans ih.2.1, hb.trans ih.2.2⟩

/-- A move leaves the catalogue as it is, or it documents or mentions one name. -/
theorem Move.catalogue {s t : Session} (h : Move s t) :
    t.catalogue = s.catalogue
      ∨ (∃ doc, t.catalogue = (s.catalogue.register doc).1)
      ∨ ∃ kind name description, t.catalogue = (s.catalogue.mention kind name description).1 := by
  obtain ⟨_, _, _, _, _, rfl, hcatalogue⟩ := h.changes
  exact hcatalogue

/-- A directive other than the one that compiles keeps the settings and the bundle, and declares
what it declares. -/
theorem author_keeps (s : Session) (d : Directive) :
    (s.author d).session.settings = s.settings
      ∧ (s.author d).session.declarations = s.declarationsAfter d
      ∧ (s.author d).session.bundle = s.bundle := by
  obtain ⟨t, ht, h⟩ := s.author_moves d
  exact ⟨h.keeps.1.trans ht.keeps.1, h.keeps.2.1, h.keeps.2.2.trans ht.keeps.2.2⟩

/-! ## Commands -/

/-- Apart from compiling, applying a directive is dropping the bundle and carrying it out. -/
theorem process_eq_author (s : Session) {d : Directive} (h : d ≠ .compile) :
    s.process d = { s with bundle := none : Session }.author d := by
  cases d <;> first | rfl | exact absurd rfl h

/-- What a directive declares does not depend on whether there is a bundle. -/
theorem declarationsAfter_dropBundle (s : Session) (d : Directive) :
    { s with bundle := none : Session }.declarationsAfter d = s.declarationsAfter d := by
  cases d <;> rfl

theorem process_declarations (s : Session) (d : Directive) :
    (s.process d).session.declarations = s.declarationsAfter d := by
  by_cases hd : d = .compile
  · subst hd
    obtain ⟨game, catalogue, messages, bundle, h⟩ := s.compile_eq
    show s.compile.session.declarations = s.declarations
    rw [h]
  · rw [process_eq_author s hd, (author_keeps _ d).2.1, declarationsAfter_dropBundle]

/-- Nothing changes the settings. -/
theorem run_settings (s : Session) (c : Command) : (s.run c).session.settings = s.settings := by
  have hcompile : s.compile.session.settings = s.settings := by
    obtain ⟨game, catalogue, messages, bundle, h⟩ := s.compile_eq
    rw [h]
  cases c with
  | directive d =>
    by_cases hd : d = .compile
    · subst hd
      exact hcompile
    · show (s.process d).session.settings = s.settings
      rw [process_eq_author s hd, (author_keeps _ d).1]
  | compile => exact hcompile
  | other v => rfl
  | reset => rfl

/-- The declarations change by what directives declare; not even starting again takes one back. -/
theorem run_declarations (s : Session) (c : Command) :
    (s.run c).session.declarations
      = match c with
        | .directive d => s.declarationsAfter d
        | _ => s.declarations := by
  cases c with
  | directive d => exact s.process_declarations d
  | compile => exact s.process_declarations .compile
  | other v => rfl
  | reset => rfl

/-! ## Runs -/

/-- A session after commands. A command that fails does not stop those after it. -/
def after (s : Session) (cs : List Command) : Session :=
  cs.foldl (fun s c => (s.run c).session) s

@[simp] theorem after_nil (s : Session) : s.after [] = s := rfl

@[simp] theorem after_cons (s : Session) (c : Command) (cs : List Command) :
    s.after (c :: cs) = (s.run c).session.after cs := rfl

theorem after_append (s : Session) (cs cs' : List Command) :
    s.after (cs ++ cs') = (s.after cs).after cs' := List.foldl_append

theorem after_concat (s : Session) (cs : List Command) (c : Command) :
    s.after (cs ++ [c]) = ((s.after cs).run c).session := by
  rw [after_append, after_cons, after_nil]

/-- What every command keeps holds after any run. -/
theorem after_of_run {P : Session → Prop} (hrun : ∀ s c, P s → P (s.run c).session) {s : Session}
    (h : P s) (cs : List Command) : P (s.after cs) := by
  induction cs generalizing s with
  | nil => exact h
  | cons c cs ih => exact ih (hrun s c h)

/-- What every move keeps, whatever is declared and whether or not there is a bundle, and what
compiling and starting again keep, is kept by every command. -/
theorem run_of_moves {P : Session → Prop} (hmove : ∀ s t, Move s t → P s → P t)
    (hframe : ∀ s ds bundle, P s → P { s with declarations := ds, bundle := bundle })
    (hcompile : ∀ s, P s → P s.compile.session) (hreset : ∀ s, P s → P s.reset) {s : Session}
    (h : P s) (c : Command) : P (s.run c).session := by
  have hmoves : ∀ s t, Moves s t → P s → P t := by
    intro s t hst hs
    induction hst with
    | refl => exact hs
    | tail _ hlast ih => exact hmove _ _ hlast ih
  cases c with
  | directive d =>
    by_cases hd : d = .compile
    · subst hd
      exact hcompile s h
    · show P (s.process d).session
      rw [process_eq_author s hd]
      -- Drop the bundle, move to `t`, declare what there is to declare, and move on.
      obtain ⟨t, ht, hrest⟩ := author_moves { s with bundle := none } d
      exact hmoves _ _ hrest (hframe t _ t.bundle (hmoves _ _ ht (hframe s s.declarations none h)))
  | other v => exact h
  | compile => exact hcompile s h
  | reset => exact hreset s h

theorem after_settings (s : Session) (cs : List Command) : (s.after cs).settings = s.settings :=
  after_of_run (P := fun t => t.settings = s.settings)
    (fun t c h => (t.run_settings c).trans h) rfl cs

/-! ## Small runs -/

def worldW : Identifier := ⟨"W", by decide⟩

def worldV : Identifier := ⟨"V", by decide⟩

def propP : NonEmptyText := ⟨"P", by decide⟩

def propQ : NonEmptyText := ⟨"Q", by decide⟩

/-- A statement without binders, proved in one step. -/
def plainExercise (name : Option String) (conclusion : NonEmptyText) : Exercise :=
  ⟨name, none, ⟨.empty, conclusion⟩, [.tactic "rfl"]⟩

end Session
end Curriculum
