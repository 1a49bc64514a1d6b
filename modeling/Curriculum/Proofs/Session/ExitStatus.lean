import Curriculum.Proofs.Session.Availability
import Curriculum.Proofs.Session.Failures
import Curriculum.Proofs.Session.Previews
import Curriculum.Proofs.Session.Severity
import Curriculum.Report

/-!
# What the exit status tells

The status looks at nothing but the severities in the log. It is tied to what
has happened in two ways. Errors come from directives that were ignored and from
statements that were not accepted; statements stay where they are recorded, so
the latter can be seen in the game at the end (`hasFailed_afterAll`).
Compiling only warns (`severity_of_mem_compilation`), about every lemma and every
statement that it cannot show.

Main statement: `exitStatus_after_compile`. A run ends without errors exactly if
nothing was ignored and every statement was accepted, and if it ends without
warnings there is moreover nothing that is undocumented, not shown, renamed or
incomplete.
-/

namespace Curriculum

/-- The status is zero if there are no errors and, in a strict run, no warnings. -/
theorem exitStatus_eq_zero_iff {messages : List Message} {strict : Bool} :
    exitStatus messages strict = 0
      ↔ ∀ m ∈ messages, m.severity ≠ .error ∧ (strict = true → m.severity ≠ .warning) := by
  simp only [exitStatus, ite_eq_right_iff, Nat.one_ne_zero, imp_false, List.any_eq_true,
    Bool.or_eq_true, Bool.and_eq_true, decide_eq_true_eq, not_exists, not_and, not_or, ne_eq]

namespace Session

/-! ## Statements that were not accepted -/

/-- Some statement of the game was not accepted. -/
def HasFailed (s : Session) : Prop :=
  ∃ world index st, s.statementAt world index = some st ∧ st.success = false

theorem hasFailed_compile {s : Session} : s.compile.session.HasFailed ↔ s.HasFailed := by
  have hcleared : ∀ t : Session, t.HasFailed ↔ ∃ world index st,
      (t.statementAt world index).map Statement.cleared = some st ∧ st.success = false := by
    intro t
    simp only [HasFailed, Option.map_eq_some_iff]
    constructor
    · intro h
      obtain ⟨world, index, st, hst, hfailed⟩ := h
      exact ⟨world, index, st.cleared, ⟨st, hst, rfl⟩, hfailed⟩
    · intro h
      obtain ⟨world, index, -, ⟨st, hst, rfl⟩, hfailed⟩ := h
      exact ⟨world, index, st, hst, hfailed⟩
  simp only [hcleared, cleared_statementAt_compile]

/-- Nothing that was recorded is lost: after a directive there is a statement that was not accepted
if there was one before, or if the directive has recorded it. -/
theorem hasFailed_author {s : Session} {d : Directive} :
    (s.author d).session.HasFailed ↔ s.HasFailed ∨ s.RecordsFailure d := by
  constructor
  · intro h
    obtain ⟨world, index, st, hst, hfailed⟩ := h
    rw [statementAt_author] at hst
    split at hst
    · rcases Option.or_eq_some_iff.1 hst with hrecorded | ⟨-, hst⟩
      · exact .inr ⟨st, hrecorded, hfailed⟩
      · exact .inl ⟨world, index, st, hst, hfailed⟩
    · exact .inl ⟨world, index, st, hst, hfailed⟩
  · intro h
    rcases h with ⟨world, index, st, hst, hfailed⟩ | ⟨st, hrecorded, hfailed⟩
    · refine ⟨world, index, st, ?_, hfailed⟩
      rw [statementAt_author]
      split
      · next hc =>
        -- A level that has a statement does not get another one.
        have hnone : s.recorded d = none := by
          obtain ⟨l, hl, hlst⟩ := statementAt_eq_some_iff.1 hst
          rw [← currentLevel_of_cursor hc] at hl
          cases d <;> simp [recorded, hl, hlst]
        rw [hnone, Option.none_or, hst]
      · exact hst
    · obtain ⟨world, index, hc⟩ : ∃ world index, s.cursor = .level world index := by
        cases d with
        | declareStatement e =>
          obtain ⟨l, hl, -⟩ := Option.bind_eq_some_iff.1 hrecorded
          obtain ⟨world, index, hc, -⟩ := exists_cursor_of_currentLevel hl
          exact ⟨world, index, hc⟩
        | _ => exact absurd hrecorded (by simp [recorded])
      refine ⟨world, index, st, ?_, hfailed⟩
      rw [statementAt_author, if_pos hc, hrecorded, Option.some_or]

theorem hasFailed_process {s : Session} {d : Directive} :
    (s.process d).session.HasFailed ↔ s.HasFailed ∨ s.RecordsFailure d := by
  by_cases hd : d = .compile
  · subst hd
    rw [or_iff_left (by simp [RecordsFailure, recorded])]
    exact hasFailed_compile
  · rw [process_eq_author s hd, hasFailed_author, RecordsFailure, recorded_dropBundle]
    rfl

/-- After a run there is a statement that was not accepted if there was one before, or if some
directive of the run has recorded it. -/
theorem hasFailed_afterAll {s : Session} {us : List Directive} :
    (s.afterAll us).HasFailed
      ↔ s.HasFailed ∨ ∃ pre d, pre ++ [d] <+: us ∧ (s.afterAll pre).RecordsFailure d := by
  induction us generalizing s with
  | nil => simp [afterAll_nil]
  | cons d us ih =>
    rw [afterAll_cons, ih, hasFailed_process, or_assoc, exists_prefix_cons]
    simp only [afterAll_cons, afterAll_nil]

/-! ## Placeholders -/

theorem hasPlaceholder_cleared {c : Catalogue} : c.cleared.HasPlaceholder ↔ c.HasPlaceholder := by
  have hitem : ∀ i : Item, i.cleared.placeholder = i.placeholder := by
    intro i
    unfold Item.cleared
    split <;> rfl
  simp only [Catalogue.HasPlaceholder, Catalogue.lookup_cleared, Option.map_eq_some_iff]
  constructor
  · intro h
    obtain ⟨kind, name, -, ⟨item, hlookup, rfl⟩, hplaceholder⟩ := h
    exact ⟨kind, name, item, hlookup, hitem item ▸ hplaceholder⟩
  · intro h
    obtain ⟨kind, name, item, hlookup, hplaceholder⟩ := h
    exact ⟨kind, name, item.cleared, ⟨item, hlookup, rfl⟩, (hitem item).trans hplaceholder⟩

theorem hasPlaceholder_compile {s : Session} :
    s.compile.session.catalogue.HasPlaceholder ↔ s.catalogue.HasPlaceholder := by
  have hcatalogue : s.compile.session.catalogue.cleared = s.catalogue.cleared :=
    congrArg Session.catalogue s.authored_compile
  rw [← hasPlaceholder_cleared, hcatalogue, hasPlaceholder_cleared]

theorem hasPlaceholder_process {s : Session} {d : Directive}
    (h : (s.process d).session.catalogue.HasPlaceholder) :
    s.catalogue.HasPlaceholder ∨ ∃ r ∈ s.remarks d, r.severity = .warning := by
  by_cases hd : d = .compile
  · subst hd
    exact .inl (hasPlaceholder_compile.1 h)
  · rw [process_eq_author s hd] at h
    rw [← remarks_dropBundle]
    exact hasPlaceholder_author (s := { s with bundle := none }) h

/-- A placeholder that is there after a run was there before, or some directive of the run has
warned about it. -/
theorem hasPlaceholder_afterAll {s : Session} {us : List Directive}
    (h : (s.afterAll us).catalogue.HasPlaceholder) :
    s.catalogue.HasPlaceholder
      ∨ ∃ pre d, pre ++ [d] <+: us ∧ ∃ r ∈ (s.afterAll pre).remarks d, r.severity = .warning := by
  induction us generalizing s with
  | nil => exact .inl h
  | cons d us ih =>
    rw [exists_prefix_cons, ← or_assoc]
    rcases ih h with h | h
    · exact .inl (hasPlaceholder_process h)
    · exact .inr h

/-! ## The log -/

/-- Nothing is more serious in the log of a run than what its directives have said. -/
theorem exists_severity_afterAll {s : Session} (hs : s.messages = []) {us : List Directive}
    {severity : Severity} :
    (∃ m ∈ (s.afterAll us).authored.messages, m.severity = severity)
      ↔ ∃ pre d, pre ++ [d] <+: us ∧ ∃ r ∈ (s.afterAll pre).remarks d, r.severity = severity := by
  have hnone : s.authored.messages = [] := by
    show s.messages.filter _ = []
    rw [hs]
    rfl
  simp only [mem_authored_after, hnone, List.not_mem_nil, false_or]
  constructor
  · intro h
    obtain ⟨-, ⟨pre, d, hpre, r, hr, rfl⟩, hseverity⟩ := h
    exact ⟨pre, d, hpre, r, hr, hseverity⟩
  · intro h
    obtain ⟨pre, d, hpre, r, hr, hseverity⟩ := h
    exact ⟨_, ⟨pre, d, hpre, r, hr, rfl⟩, hseverity⟩

/-- Compiling only warns. -/
theorem severity_of_mem_compilation {s : Session} (h : s.compile.failure = none) {m : Message}
    (hm : m ∈ s.compilation.messages) : m.severity = .warning := by
  obtain ⟨bundle, hok⟩ := failure_compile_eq_none_iff.1 h
  have hcompilation : s.compilation = _ := Game.compile_of_no_obstacle (Game.compile_ok hok).1 _ _
  rw [hcompilation] at hm
  rcases List.mem_append.1 hm with hm | hm
  · obtain ⟨i, -, -, rfl⟩ := mem_undeclaredLemmas_iff.1 hm
    rfl
  · obtain ⟨w, -, hm⟩ := List.mem_flatMap.1 hm
    obtain ⟨l, -, hm⟩ := List.mem_flatMap.1 hm
    obtain ⟨st, -, -, rfl⟩ := Level.mem_previewWarning_iff.1 hm
    rfl

/-! ## What is shown -/

/-- After a compilation without warnings, each statement is shown by its declaration. -/
theorem preview_of_no_warning {s : Session} (hs : s.Settled) (h : s.compile.failure = none)
    (hnone : s.compilation.messages = []) {world : String} {index : Int} {st : Statement}
    (hst : s.compile.session.statementAt world index = some st) :
    ∃ type, s.declarations.get? st.theoremName = some type
      ∧ st.preview = some (renderDeclaration st.theoremName type) := by
  cases hget : s.declarations.get? st.theoremName with
  | none =>
    obtain ⟨-, m, hm, -⟩ := shown_of_undeclared hs h hst hget
    rw [warningsAt, compiling_messages_compile, h, Option.isNone_none, if_pos rfl, hnone] at hm
    exact absurd hm (by simp)
  | some type => exact ⟨type, rfl, (shown_of_declared hs h hst hget).1⟩

/-- After a compilation without warnings, each lemma of the bundle is shown by its declaration. -/
theorem statement_of_no_warning {s : Session} (hs : s.catalogue.Keyed) {bundle : Bundle}
    (hok : s.compilation.result = .ok bundle) (hnone : s.compilation.messages = []) {i : Item}
    (hi : i ∈ bundle.inventory) (hkind : i.kind = .lemmas) :
    ∃ type, s.declarations.get? i.name = some type
      ∧ i.statement = some (renderDeclaration i.name type) := by
  have hcompilation : s.compilation = _ := Game.compile_of_no_obstacle (Game.compile_ok hok).1 _ _
  rw [hcompilation] at hok hnone
  rw [Game.inventory_of_bundle hok, Catalogue.items, Catalogue.mapItems, OrderedMap.values_map] at hi
  obtain ⟨j, hj, rfl⟩ := List.mem_map.1 hi
  obtain ⟨statement, heq⟩ := j.withStatement_eq s.declarations s.settings.notFoundText
  have hjkind : j.kind = .lemmas := by rwa [heq] at hkind
  have hname : (j.withStatement s.declarations s.settings.notFoundText).name = j.name := by rw [heq]
  have hlemma : j ∈ s.catalogue.itemsOf .lemmas := by
    obtain ⟨⟨kind, name⟩, hlookup⟩ := OrderedMap.mem_values_iff.1 hj
    obtain ⟨hkey, -, -⟩ := hs kind name j hlookup
    exact Catalogue.mem_itemsOf_iff.2 ⟨name, hjkind ▸ hkey ▸ hlookup⟩
  cases hget : s.declarations.get? j.name with
  | none =>
    have hundeclared : s.declarations.rendered? j.name = none := by
      rw [Declarations.rendered?, hget, Option.map_none]
    have hmem : _ ∈ undeclaredLemmas s.declarations s.withdraw.game.name s.catalogue :=
      mem_undeclaredLemmas_iff.2 ⟨j, hlemma, hundeclared, rfl⟩
    rw [(List.append_eq_nil_iff.1 hnone).1] at hmem
    exact absurd hmem List.not_mem_nil
  | some type =>
    refine ⟨type, hname ▸ hget, ?_⟩
    rw [hname, ← Declarations.shownOr_of_get?_eq_some hget s.settings.notFoundText,
      Item.withStatement, if_pos hjkind]

/-! ## Runs -/

/-- A run in which nothing is ignored and after which every statement was accepted. -/
structure Sound (s₀ : Session) (us : List Directive) (t : Session) : Prop where
  /-- Every statement of the game was accepted. -/
  accepted : ∀ world index st, t.statementAt world index = some st → st.success = true
  /-- No directive was ignored. -/
  heeded : ∀ pre d, pre ++ [d] <+: us → ¬ (s₀.afterAll pre).Ignores d

/-- A run that moreover leaves nothing undocumented, not shown, renamed or incomplete. -/
structure Spotless (s₀ : Session) (us : List Directive) (t : Session) (bundle : Bundle) : Prop
    extends Sound s₀ us t where
  /-- No item of the inventory is a placeholder. -/
  documented : ∀ i ∈ bundle.inventory, i.placeholder = false
  /-- Every lemma is shown by its declaration. -/
  lemmas_shown : ∀ i ∈ bundle.inventory, i.kind = .lemmas →
    ∃ type, t.declarations.get? i.name = some type
      ∧ i.statement = some (renderDeclaration i.name type)
  /-- Every statement is shown by its declaration. -/
  statements_shown : ∀ world index st, t.statementAt world index = some st →
    ∃ type, t.declarations.get? st.theoremName = some type
      ∧ st.preview = some (renderDeclaration st.theoremName type)
  /-- No name that an author gave to a statement was declared by then. An empty name is none. -/
  names_free : ∀ pre e, pre ++ [.declareStatement e] <+: us → ∀ name, e.name = some name →
    name ≠ "" → (s₀.afterAll pre).declarations.get? name = none
  /-- No script leaves a proof incomplete. -/
  scripts_complete : ∀ e, .declareStatement e ∈ us → ∀ text, .tactic text ∈ e.script →
    Text.strip text ≠ "sorry"

/-- A statement that does not fail and is not ignored is recorded. -/
theorem remarks_declareStatement {s : Session} {e : Exercise}
    (hfailure : (s.process (.declareStatement e)).failure = none)
    (hheeded : ¬ s.Ignores (.declareStatement e)) :
    ∃ l, s.currentLevel = some l ∧ l.statement = none
      ∧ s.remarks (.declareStatement e) = s.remarksOn l e := by
  rw [failure_process s (by simp), failureOf] at hfailure
  cases hw : s.currentWorld with
  | none =>
    rw [hw] at hfailure
    exact absurd hfailure (by simp)
  | some w =>
    cases hl : s.currentLevel with
    | none => exact absurd (.inl ⟨by rw [hw]; rfl, hl⟩) hheeded
    | some l =>
      cases hst : l.statement with
      | some st => exact absurd (.inr ⟨l, hl, by rw [hst]; rfl⟩) hheeded
      | none => exact ⟨l, rfl, hst, by simp only [remarks, remarksAtLevel, hw, hl, hst]⟩

variable {settings : Settings} {ds : Declarations} {us : List Directive}

/-- Directives have said no error exactly if the run is sound. -/
theorem no_error_iff_sound :
    (∀ m ∈ ((start settings ds).afterAll us).authored.messages, m.severity ≠ .error)
      ↔ Sound (start settings ds) us ((start settings ds).afterAll us).compile.session := by
  have hstart : ¬ (start settings ds).HasFailed := by
    intro h
    obtain ⟨world, index, st, hst, -⟩ := h
    exact absurd (hst.symm.trans (statementAt_start settings ds world index)) (by simp)
  have herror : (∃ m ∈ ((start settings ds).afterAll us).authored.messages, m.severity = .error)
      ↔ (∃ pre d, pre ++ [d] <+: us ∧ ((start settings ds).afterAll pre).Ignores d)
        ∨ ((start settings ds).afterAll us).compile.session.HasFailed := by
    rw [hasFailed_compile, hasFailed_afterAll, or_iff_right hstart, exists_severity_afterAll rfl]
    simp only [exists_error_remarks_iff, and_or_left, exists_or]
  constructor
  · intro h
    have hnone : ¬ ∃ m ∈ ((start settings ds).afterAll us).authored.messages,
        m.severity = .error := by
      intro hsome
      obtain ⟨m, hm, hsevere⟩ := hsome
      exact h m hm hsevere
    have hnot := mt herror.2 hnone
    rw [not_or] at hnot
    constructor
    case accepted =>
      intro world index st hst
      by_contra hfailed
      exact hnot.2 ⟨world, index, st, hst, Bool.eq_false_iff.2 hfailed⟩
    case heeded => exact fun pre d hpre hignored => hnot.1 ⟨pre, d, hpre, hignored⟩
  · intro h m hm hsevere
    rcases herror.1 ⟨m, hm, hsevere⟩ with ⟨pre, d, hpre, hignored⟩ | ⟨world, index, st, hst, hfailed⟩
    · exact h.heeded pre d hpre hignored
    · exact absurd ((h.accepted world index st hst).symm.trans hfailed) (by simp)

/-- Without warnings, what a sound run has recorded had free names and complete scripts. -/
theorem names_free_and_complete
    (hrun : ∀ pre d, pre ++ [d] <+: us → (((start settings ds).afterAll pre).process d).failure = none)
    (hsound : Sound (start settings ds) us ((start settings ds).afterAll us).compile.session)
    (hwarning : ∀ m ∈ ((start settings ds).afterAll us).authored.messages, m.severity ≠ .warning)
    {pre : List Directive} {e : Exercise} (hpre : pre ++ [.declareStatement e] <+: us) :
    (∀ name, e.name = some name → name ≠ "" →
        ((start settings ds).afterAll pre).declarations.get? name = none)
      ∧ ∀ text, .tactic text ∈ e.script → Text.strip text ≠ "sorry" := by
  obtain ⟨l, hl, hst, hremarks⟩ := remarks_declareStatement (hrun _ _ hpre)
    (hsound.heeded _ _ hpre)
  have hno : ¬ ∃ r ∈ ((start settings ds).afterAll pre).remarksOn l e, r.severity = .warning := by
    intro h
    rw [← hremarks] at h
    obtain ⟨m, hm, hsevere⟩ := (exists_severity_afterAll (s := start settings ds) rfl).2
      ⟨pre, _, hpre, h⟩
    exact hwarning m hm hsevere
  constructor
  · intro name hname hne
    by_contra htaken
    exact hno (exists_warning_remarksOn (.inl ⟨name, hname, hne, htaken⟩))
  · intro text htext hskip
    refine hno (exists_warning_remarksOn (.inr ⟨?_, text, htext, hskip⟩))
    -- It was accepted, since otherwise recording it would have said an error.
    by_contra hfailed
    have herror : ∃ r ∈ ((start settings ds).afterAll pre).remarksOn l e, r.severity = .error :=
      exists_error_remarksOn_iff.2 (Bool.eq_false_iff.2 hfailed)
    rw [← hremarks] at herror
    obtain ⟨m, hm, hsevere⟩ := (exists_severity_afterAll (s := start settings ds) rfl).2
      ⟨pre, _, hpre, herror⟩
    exact no_error_iff_sound.2 hsound m hm hsevere

/-- Without warnings, there is no placeholder among the items of the bundle. -/
theorem documented_of_no_warning
    (hwarning : ∀ m ∈ ((start settings ds).afterAll us).authored.messages, m.severity ≠ .warning)
    {bundle : Bundle} (hok : ((start settings ds).afterAll us).compilation.result = .ok bundle)
    {i : Item} (hi : i ∈ bundle.inventory) : i.placeholder = false := by
  by_contra hplaceholder
  have hinventory : bundle.inventory
      = ((start settings ds).afterAll us).compile.session.catalogue.items := by
    rw [(game_compile _).2]
    exact Game.inventory_of_bundle (Game.bundle_of_compile_ok hok)
  rw [hinventory] at hi
  obtain ⟨⟨kind, name⟩, hlookup⟩ := OrderedMap.mem_values_iff.1 hi
  have hhas : ((start settings ds).afterAll us).catalogue.HasPlaceholder :=
    hasPlaceholder_compile.1 ⟨kind, name, i, hlookup, by simpa using hplaceholder⟩
  rcases hasPlaceholder_afterAll hhas with hstart | ⟨pre, d, hpre, h⟩
  · obtain ⟨kind, name, item, hlookup, -⟩ := hstart
    exact absurd hlookup (by simp [Catalogue.lookup, start, Catalogue.empty])
  · obtain ⟨m, hm, hsevere⟩ := (exists_severity_afterAll (s := start settings ds) rfl).2
      ⟨pre, d, hpre, h⟩
    exact hwarning m hm hsevere

/-- **The exit status.** A run of directives that does not fail, followed by a compilation that
succeeds, has the status zero exactly if no directive was ignored and every statement of the game
was accepted. If it has the status zero even when it is strict, the inventory has no placeholders,
lemmas and statements are shown by their declarations, no name that an author gave to a statement
was taken, and no script leaves a proof incomplete. -/
theorem exitStatus_after_compile {s : Session}
    (hrun : (start settings ds).processAll us = s.done) (hcompile : s.compile.failure = none) :
    ∃ bundle, s.compile.session.bundle = some bundle
      ∧ (exitStatus s.compile.session.messages false = 0
        ↔ Sound (start settings ds) us s.compile.session)
      ∧ (exitStatus s.compile.session.messages true = 0
        → Spotless (start settings ds) us s.compile.session bundle) := by
  obtain ⟨rfl, hfailures⟩ := processAll_eq_done hrun
  obtain ⟨bundle, hok⟩ := failure_compile_eq_none_iff.1 hcompile
  obtain ⟨hmessages, -, -⟩ := messages_compile hcompile
  refine ⟨bundle, by rw [compile_of_ok hok], ?_, ?_⟩
  · rw [← no_error_iff_sound, exitStatus_eq_zero_iff, hmessages]
    constructor
    · exact fun h m hm => (h m (List.mem_append_left _ hm)).1
    · intro h m hm
      refine ⟨?_, by simp⟩
      rcases List.mem_append.1 hm with hm | hm
      · exact h m hm
      · rw [severity_of_mem_compilation hcompile hm]
        simp
  · intro hstatus
    rw [exitStatus_eq_zero_iff, hmessages] at hstatus
    have hwarning : ∀ m ∈ ((start settings ds).afterAll us).authored.messages,
        m.severity ≠ .warning := fun m hm => (hstatus m (List.mem_append_left _ hm)).2 rfl
    have hsound := no_error_iff_sound.1
      fun m hm => (hstatus m (List.mem_append_left _ hm)).1
    have hnone : ((start settings ds).afterAll us).compilation.messages = [] := by
      refine List.eq_nil_iff_forall_not_mem.2 fun m hm => ?_
      exact (hstatus m (List.mem_append_right _ hm)).2 rfl (severity_of_mem_compilation hcompile hm)
    have hdeclarations : ((start settings ds).afterAll us).compile.session.declarations
        = ((start settings ds).afterAll us).declarations :=
      ((start settings ds).afterAll us).process_declarations .compile
    constructor
    case toSound => exact hsound
    case documented => exact fun i hi => documented_of_no_warning hwarning hok hi
    case lemmas_shown =>
      intro i hi hkind
      rw [hdeclarations]
      exact statement_of_no_warning (keyed_after settings ds _) hok hnone hi hkind
    case statements_shown =>
      intro world index st hst
      rw [hdeclarations]
      exact preview_of_no_warning (settled_after settings ds _) hcompile hnone hst
    case names_free =>
      exact fun pre e hpre => (names_free_and_complete hfailures hsound hwarning hpre).1
    case scripts_complete =>
      intro e he
      obtain ⟨pre, post, rfl⟩ := List.append_of_mem he
      have hpre : pre ++ [.declareStatement e] <+: pre ++ .declareStatement e :: post :=
        ⟨post, by simp⟩
      exact (names_free_and_complete hfailures hsound hwarning hpre).2

/-- A level gives a documented tactic and states a documented lemma under a free name. -/
def documentedRun : List Directive := [
  .registerDoc ⟨.tactics, ⟨"rfl", by decide⟩, none, none, "Closes an equation."⟩,
  .registerDoc ⟨.lemmas, ⟨"foo", by decide⟩, none, none, "The first lemma."⟩,
  .addWorld worldW,
  .setLevelIndex 1,
  .declareInventory .new .tactics ["rfl"],
  .declareStatement (plainExercise (some "foo") propP)]

/-- The run ends with the status zero even when it is strict, so it is spotless. The inventory and
the level show the lemma as it was stated. -/
theorem spotless_documentedRun :
    let s := (start .standard .empty).afterAll documentedRun
    (start .standard .empty).processAll documentedRun = s.done
      ∧ s.compile.failure = none
      ∧ exitStatus s.compile.session.messages true = 0
      ∧ ∃ bundle, s.compile.session.bundle = some bundle
        ∧ Spotless (start .standard .empty) documentedRun s.compile.session bundle
        ∧ bundle.inventory.map (fun i => (i.kind, i.name, i.statement))
          = [(.tactics, "rfl", none), (.lemmas, "foo", some "foo : P")]
        ∧ (s.compile.session.statementAt "W" 1).bind (·.preview) = some "foo : P" := by
  intro s
  have hrun : (start .standard .empty).processAll documentedRun = s.done := rfl
  have hcompile : s.compile.failure = none := by decide +kernel
  have hstatus : exitStatus s.compile.session.messages true = 0 := by decide +kernel
  have hshown : (s.compile.session.bundle.map
      fun b => b.inventory.map fun i => (i.kind, i.name, i.statement))
        = some [(.tactics, "rfl", none), (.lemmas, "foo", some "foo : P")] := by decide +kernel
  have hpreview : (s.compile.session.statementAt "W" 1).bind (·.preview) = some "foo : P" := by
    decide +kernel
  obtain ⟨bundle, hbundle, -, hspotless⟩ := exitStatus_after_compile hrun hcompile
  rw [hbundle, Option.map_some, Option.some_inj] at hshown
  exact ⟨hrun, hcompile, hstatus, bundle, hbundle, hspotless hstatus, hshown, hpreview⟩

end Session
end Curriculum
