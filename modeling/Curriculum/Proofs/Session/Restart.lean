import Curriculum.Proofs.Session.Declared
import Curriculum.Proofs.Session.Log
import Curriculum.Proofs.Session.Recompile

/-!
# Starting again

A session that starts again is a fresh one, except that what was declared stays
declared. The difference can be told: a name that is declared by then can be
given to a statement, and what is said about the statement depends on whether
the name is taken, and by what (`declared_of_sameOutcome`).

Main statement: `reset_is_fresh_iff`. After a run, starting again is as good as
a new session for all directives to come exactly if the run has declared nothing
that was not declared before it. `reset_keeps_declarations` is a run after which
it is not.
-/

namespace Curriculum.Session

/-! ## What can be seen -/

/-- What can be seen of two sessions is the same. -/
structure SameView (s t : Session) : Prop where
  game : s.game = t.game
  graph : s.graph = t.graph
  catalogue : s.catalogue = t.catalogue
  cursor : s.cursor = t.cursor
  messages : s.messages = t.messages
  bundle : s.bundle = t.bundle

/-- How commands fail or do not fail, one after the other. -/
def failures (s : Session) : List Command → List (Option Failure)
  | [] => []
  | c :: cs => (s.run c).failure :: (s.run c).session.failures cs

/-- Two sessions answer commands in the same way, and look the same afterwards. -/
def SameOutcome (s t : Session) (cs : List Command) : Prop :=
  s.failures cs = t.failures cs ∧ SameView (s.after cs) (t.after cs)

/-! ## Declarations of a run -/

theorem defaultTheoremName_ne_empty (game world : String) (index : Int) :
    defaultTheoremName game world index ≠ "" := by
  intro h
  have hlength := congrArg String.length h
  simp [defaultTheoremName, String.length_append] at hlength

theorem resolveName_ne_empty (lookup : String → Option String) (authorName : Option String)
    (game world : String) (index : Int) :
    (resolveName lookup authorName game world index).theoremName ≠ "" := by
  unfold resolveName
  dsimp only
  split
  · exact defaultTheoremName_ne_empty game world index
  · split
    · next hname =>
      split
      · exact hname
      · exact defaultTheoremName_ne_empty game world index
    · exact defaultTheoremName_ne_empty game world index

/-- No statement is declared without a name. -/
theorem ne_empty_of_declares {s : Session} {d : Directive} {name type : String}
    (h : s.declares d = some (name, type)) : name ≠ "" := by
  cases d with
  | declareStatement e =>
    obtain ⟨l, -, h⟩ := Option.bind_eq_some_iff.1 h
    split at h
    · obtain ⟨rfl, -⟩ := Prod.mk.inj (Option.some.inj h)
      exact resolveName_ne_empty _ _ _ _ _
    · exact absurd h (by simp)
  | _ => exact absurd h (by simp [declares])

/-- One command leaves the declarations as they are or declares one name. -/
theorem declarations_run_cases (s : Session) (c : Command) :
    (s.run c).session.declarations = s.declarations
      ∨ ∃ name type, name ≠ ""
        ∧ (s.run c).session.declarations = s.declarations.insert name type := by
  rw [run_declarations]
  cases c with
  | directive d =>
    simp only [declarationsAfter]
    split
    · next name type h => exact .inr ⟨name, type, ne_empty_of_declares h, rfl⟩
    · exact .inl rfl
  | _ => exact .inl rfl

/-- The names that were declared come first and in their order. -/
theorem keys_prefix_after (s : Session) (cs : List Command) :
    s.declarations.keys <+: (s.after cs).declarations.keys := by
  refine after_of_run (P := fun t => s.declarations.keys <+: t.declarations.keys) ?_
    (List.prefix_refl _) cs
  intro t c h
  refine h.trans ?_
  rcases t.declarations_run_cases c with heq | ⟨name, type, -, heq⟩
  · exact heq.symm ▸ List.prefix_refl _
  · rw [heq, OrderedMap.keys_insert]
    split
    · exact List.prefix_refl _
    · exact List.prefix_append _ _

/-- What is declared was declared before, or it has a name that is not empty. -/
theorem get?_declarations_after (s : Session) (cs : List Command) {name type : String}
    (h : (s.after cs).declarations.get? name = some type) :
    s.declarations.get? name = some type ∨ name ≠ "" := by
  revert h
  refine after_of_run (P := fun t => t.declarations.get? name = some type →
    s.declarations.get? name = some type ∨ name ≠ "") ?_ .inl cs
  intro t c ih h
  rcases t.declarations_run_cases c with heq | ⟨name', type', hname', heq⟩
  · exact ih (heq ▸ h)
  · rw [heq, OrderedMap.get?_insert] at h
    split at h
    · next hname => exact .inr (hname ▸ hname')
    · exact ih h

/-- If a run has changed the declarations, some name has a type that it did not have. -/
theorem exists_declared_of_ne {s : Session} {cs : List Command}
    (h : (s.after cs).declarations ≠ s.declarations) :
    ∃ (name : NonEmptyText) (type : String),
      (s.after cs).declarations.get? name.val = some type
        ∧ s.declarations.get? name.val ≠ some type := by
  by_contra hnot
  -- Names are only added at the end, so without a new entry nothing has changed.
  refine h (OrderedMap.eq_of_keys_prefix (s.keys_prefix_after cs) fun name type hname => ?_)
  by_contra hne
  have hname' := (s.get?_declarations_after cs hname).resolve_left hne
  exact hnot ⟨⟨name, hname'⟩, type, hname, hne⟩

/-! ## Asking for a name -/

/-- Directives that give a name to a statement, so that one is told whether it is taken. -/
def probe (name : NonEmptyText) : List Directive := [
  .addWorld worldW,
  .setLevelIndex 1,
  .declareStatement (plainExercise (some name.val) propP)]

/-- What one is told. -/
def answer (ds : Declarations) (game : String) (name : NonEmptyText) : List Remark :=
  (resolveName ds.get? (some name.val) game "W" 1).remark.toList
    ++ [.undocumented .lemmas name.val]

theorem messages_probe (settings : Settings) (ds : Declarations) (name : NonEmptyText) :
    ((start settings ds).after ((probe name).map .directive)).messages
      = (answer ds settings.defaultGame name).map
          (·.message .authoring ⟨some settings.defaultGame, some "W", some 1⟩) := by
  -- The session in which the statement is made: there is nothing in it but a level.
  obtain ⟨s, hafter, hlevel, hds, hcatalogue, hmessages, hgame, hlocation⟩ : ∃ s : Session,
      (start settings ds).after ((probe name).map .directive)
          = (s.declareStatement (plainExercise (some name.val) propP)).session
        ∧ s.currentLevel = some (.fresh "W" 1) ∧ s.declarations = ds ∧ s.catalogue = .empty
        ∧ s.messages = [] ∧ s.game.name = settings.defaultGame
        ∧ s.location = ⟨some settings.defaultGame, some "W", some 1⟩ :=
    ⟨_, rfl, rfl, rfl, rfl, rfl, rfl, rfl⟩
  have hremarks : s.remarksOn (.fresh "W" 1) (plainExercise (some name.val) propP)
      = answer ds settings.defaultGame name := by
    rw [remarksOn, answer, hds, hgame, hcatalogue]
    simp only [plainExercise, Level.fresh, docName_resolveName]
    rw [List.append_assoc]
    rfl
  have hsays := s.says_recordStatement (.fresh "W" 1)
    (plainExercise (some name.val) propP)
  rw [hafter, declareStatement_of_level hlevel rfl, done, hsays.messages, hmessages, hlocation,
    List.nil_append, hremarks]

/-- What is said about a name that is taken tells the type that it has. -/
theorem nameTaken_text_inj {name type type' theoremName : String}
    (h : (Remark.nameTaken name type theoremName).text
      = (Remark.nameTaken name type' theoremName).text) : type = type' := by
  rw [Remark.text.eq_def, Remark.text.eq_def] at h
  dsimp only at h
  rwa [String.append_left_inj, String.append_left_inj, String.append_left_inj,
    String.append_right_inj] at h

theorem answer_eq (ds : Declarations) (game : String) (name : NonEmptyText) :
    answer ds game name
      = match ds.get? name.val with
        | some type =>
          [.nameTaken name.val type (defaultTheoremName game "W" 1), .undocumented .lemmas name.val]
        | none => [.undocumented .lemmas name.val] := by
  rw [answer, resolveName.eq_def]
  simp only [name.property, ne_eq, not_false_eq_true, dif_pos]
  cases ds.get? name.val <;> rfl

/-- Different types of a name have different answers, and so has a name that is free. -/
theorem get?_of_answer_eq {ds ds' : Declarations} {game : String} {name : NonEmptyText}
    {type : String} {location : Location} (h : ds.get? name.val = some type)
    (heq : (answer ds game name).map (·.message .authoring location)
      = (answer ds' game name).map (·.message .authoring location)) :
    ds'.get? name.val = some type := by
  rw [answer_eq, answer_eq, h] at heq
  cases hds' : ds'.get? name.val with
  | none =>
    -- The question about a free name has one remark less.
    rw [hds'] at heq
    have hlength := congrArg List.length heq
    rw [List.length_map, List.length_map] at hlength
    simp at hlength
  | some type' =>
    rw [hds'] at heq
    obtain ⟨hmessage, -⟩ := List.cons.inj heq
    rw [nameTaken_text_inj (congrArg Message.text hmessage)]

/-- After the question and a compilation, the log still has the answer. -/
theorem log_probe (settings : Settings) (ds : Declarations) (name : NonEmptyText) :
    ((start settings ds).after ((probe name).map .directive ++ [.compile])).messages.filter
        (·.stage = .authoring)
      = (answer ds settings.defaultGame name).map
          (·.message .authoring ⟨some settings.defaultGame, some "W", some 1⟩) := by
  rw [after_concat]
  -- The compilation at the end adds to the log only what is left away here.
  show ((start settings ds).after ((probe name).map .directive)).compile.session.authored.messages
    = _
  rw [authored_compile]
  show ((start settings ds).after ((probe name).map .directive)).messages.filter _ = _
  rw [messages_probe, List.filter_eq_self]
  intro m hm
  obtain ⟨r, -, rfl⟩ := List.mem_map.1 hm
  rfl

/-- What is declared in one of two sessions that cannot be told apart is declared in the other. -/
theorem declared_of_sameOutcome {settings : Settings} {ds ds' : Declarations}
    (h : ∀ vs : List Directive, SameOutcome (start settings ds) (start settings ds')
      (vs.map .directive ++ [.compile]))
    {name : NonEmptyText} {type : String} (hname : ds.get? name.val = some type) :
    ds'.get? name.val = some type := by
  have hlog := congrArg (List.filter (·.stage = .authoring)) (h (probe name)).2.messages
  rw [log_probe, log_probe] at hlog
  exact get?_of_answer_eq hname hlog

/-! ## Starting again -/

theorem reset_after (settings : Settings) (ds : Declarations) (us : List Command) :
    ((start settings ds).after us).reset
      = start settings ((start settings ds).after us).declarations := by
  rw [reset, after_settings]
  rfl

/-- **Starting again.** After any run, starting again gives a fresh session with what is declared by
then. It answers all directives and a compilation at the end as a session would that is new from the
start exactly if nothing has been declared besides what was declared at the start. -/
theorem reset_is_fresh_iff (settings : Settings) (ds : Declarations) (us : List Command) :
    ((start settings ds).after us).reset
        = start settings ((start settings ds).after us).declarations
      ∧ ((∀ vs : List Directive, SameOutcome ((start settings ds).after us).reset
            (start settings ds) (vs.map .directive ++ [.compile]))
          ↔ ((start settings ds).after us).declarations = ds) := by
  refine ⟨reset_after settings ds us, fun h => ?_, fun h vs => ?_⟩
  · rw [reset_after] at h
    by_contra hne
    obtain ⟨name, type, hname, hnot⟩ := exists_declared_of_ne (s := start settings ds) hne
    exact hnot (declared_of_sameOutcome h hname)
  · rw [reset_after, h]
    exact ⟨rfl, rfl, rfl, rfl, rfl, rfl, rfl⟩

/-- The name of a statement made before starting again is taken for the same statement made after
it. -/
theorem reset_keeps_declarations :
    ¬ SameOutcome
      ((start .standard .empty).after ((probe ⟨"foo", by decide⟩).map .directive)).reset
      (start .standard .empty) ((probe ⟨"foo", by decide⟩).map .directive ++ [.compile]) := by
  intro h
  exact absurd h.2.messages (by decide +kernel)

end Curriculum.Session
