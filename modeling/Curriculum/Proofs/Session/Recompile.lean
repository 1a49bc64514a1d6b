import Curriculum.Proofs.Session.Authored

/-!
# Compiling at any time

An attempt at compiling leaves what the author has made as it was, whether it
succeeds or fails, `authored_compile`; and what it makes of the session depends
on nothing but what the author has made, `compile_authored`. So attempts that
are made on the way leave no trace in a compilation that succeeds at the end,
and a bundle that is kept is the one that a new compilation would make.

Main statement: `finish_eq_compile_without`.
-/

namespace Curriculum

/-! ## What compiling says -/

theorem stage_of_mem_undeclaredLemmas {ds : Declarations} {game : String} {c : Catalogue}
    {m : Message} (hm : m ∈ undeclaredLemmas ds game c) : m.stage = .compiling := by
  obtain ⟨i, -, -, rfl⟩ := mem_undeclaredLemmas_iff.1 hm
  rfl

theorem Level.stage_of_mem_previewWarning {ds : Declarations} {game world : String} {l : Level}
    {m : Message} (hm : m ∈ l.previewWarning ds game world) : m.stage = .compiling := by
  obtain ⟨st, -, -, rfl⟩ := mem_previewWarning_iff.1 hm
  rfl

theorem Game.stage_of_mem_previewWarnings {ds : Declarations} {game : Game} {m : Message}
    (hm : m ∈ game.previewWarnings ds) : m.stage = .compiling := by
  obtain ⟨w, -, hm⟩ := List.mem_flatMap.1 hm
  obtain ⟨l, -, hm⟩ := List.mem_flatMap.1 hm
  exact Level.stage_of_mem_previewWarning hm

/-- Every message of a compilation is marked as such. -/
theorem Game.stage_of_mem_compile {game : Game} {graph : WorldGraph} {catalogue : Catalogue}
    {ds : Declarations} {notFound : String} {bundle : Bundle}
    (hok : (game.compile graph catalogue ds notFound).result = .ok bundle) {m : Message}
    (hm : m ∈ (game.compile graph catalogue ds notFound).messages) : m.stage = .compiling := by
  rw [compile_of_no_obstacle (compile_ok hok).1] at hm
  rcases List.mem_append.1 hm with hm | hm
  · exact stage_of_mem_undeclaredLemmas hm
  · exact stage_of_mem_previewWarnings hm

/-- Leaving away the messages of compilations leaves nothing of a list of them. -/
theorem filter_authoring_eq_nil {messages : List Message}
    (h : ∀ m ∈ messages, m.stage = .compiling) :
    messages.filter (·.stage = .authoring) = [] := by
  refine List.filter_eq_nil_iff.2 fun m hm => ?_
  simp [h m hm]

namespace Level

theorem authored_withdrawn (l : Level) : l.withdrawn.authored = l.authored := by
  simp only [authored, withdrawn, List.filter_filter, Bool.and_self]

theorem withdrawn_authored (l : Level) : l.authored.withdrawn = l.authored := l.authored_withdrawn

theorem authored_setComputed (l : Level) (kind : Kind) (computed : List ComputedItem) :
    (l.setComputed kind computed).authored = l.authored :=
  l.withdrawn.cleared_setComputed kind computed

theorem authored_withPreview (ds : Declarations) (notFound game world : String) (l : Level) :
    (l.withPreview ds notFound game world).authored = l.authored := by
  have hfilter := filter_authoring_eq_nil fun m (hm : m ∈ l.previewWarning ds game world) =>
    stage_of_mem_previewWarning hm
  have hstatement : (l.withPreview ds notFound game world).statement.map Statement.cleared
      = l.statement.map Statement.cleared := by
    rw [withPreview, Option.map_map]
    rfl
  simp only [authored, withdrawn, cleared, unpreviewed, hstatement]
  simp only [withPreview, List.filter_append, hfilter, List.append_nil]

end Level

namespace Session

/-! ## One attempt -/

theorem game_authored_withdraw (s : Session) :
    s.withdraw.game.mapLevels Level.authored = s.authored.game := by
  rw [game_withdraw, Game.mapLevels_mapLevels]
  simp only [Level.authored_withdrawn]
  rfl

theorem messages_withdraw (s : Session) :
    s.withdraw.messages.filter (·.stage = .authoring) = s.withdraw.messages := by
  simp only [withdraw, List.filter_filter, Bool.and_self]

/-- **An attempt at compiling** leaves what the author has made. -/
theorem authored_compile (s : Session) : s.compile.session.authored = s.authored := by
  have hgame : s.compilation.game.mapLevels Level.authored = s.authored.game := by
    rw [compilation, Game.mapLevels_compile Level.authored_setComputed
      (fun name id l => l.authored_withPreview _ _ name id), game_authored_withdraw]
  have hcatalogue : s.compilation.catalogue.cleared = s.authored.catalogue :=
    Game.cleared_catalogue_compile ..
  cases h : s.compilation.result with
  | error failure =>
    rw [compile_of_error h]
    simp only [authored, hgame, hcatalogue, messages_withdraw]
    rfl
  | ok bundle =>
    -- What the compilation adds to the log is left away again.
    have hmessages := filter_authoring_eq_nil fun m hm => Game.stage_of_mem_compile h hm
    rw [compile_of_ok h]
    simp only [authored, hgame, hcatalogue, List.filter_append, messages_withdraw]
    rw [compilation, hmessages, List.append_nil]
    rfl

theorem compilation_authored (s : Session) :
    (∃ failure, s.compilation.result = .error failure
        ∧ s.authored.compilation.result = .error failure)
      ∨ s.authored.compilation = s.compilation := by
  have hgame : s.authored.withdraw.game = s.withdraw.game.cleared := by
    simp only [game_withdraw, authored, Game.cleared, Game.mapLevels_mapLevels,
      Level.withdrawn_authored]
    rfl
  rw [compilation, compilation, hgame]
  exact s.withdraw.game.compile_cleared s.graph s.catalogue s.declarations s.settings.notFoundText

/-- **What an attempt makes** of a session depends on what the author has made. -/
theorem compile_authored (s : Session) :
    s.authored.compile.failure = s.compile.failure
      ∧ (s.compile.failure = none → s.authored.compile = s.compile) := by
  have hwithdraw : s.authored.withdraw.messages = s.withdraw.messages := s.messages_withdraw
  rcases s.compilation_authored with ⟨failure, h, h'⟩ | heq
  · rw [compile_of_error h, compile_of_error h']
    exact ⟨rfl, fun hnone => absurd hnone (by simp)⟩
  · cases h : s.compilation.result with
    | error failure =>
      rw [compile_of_error h, compile_of_error (heq ▸ h)]
      exact ⟨rfl, fun hnone => absurd hnone (by simp)⟩
    | ok bundle =>
      rw [compile_of_ok h, compile_of_ok (heq ▸ h), heq, hwithdraw]
      exact ⟨rfl, fun _ => rfl⟩

theorem eq_done_of_failure_eq_none {o : Outcome} (h : o.failure = none) : o = o.session.done := by
  obtain ⟨session, failure⟩ := o
  obtain rfl : failure = none := h
  rfl

/-- Compiling a second time changes nothing. -/
theorem compile_compile {s : Session} (h : s.compile.failure = none) :
    s.compile.session.compile = s.compile.session.done := by
  have hauthored := s.authored_compile
  obtain ⟨hfailure, heq⟩ := s.compile_authored
  obtain ⟨hfailure', heq'⟩ := s.compile.session.compile_authored
  rw [hauthored] at hfailure' heq'
  have hnone : s.compile.session.compile.failure = none := by rw [← hfailure', hfailure, h]
  -- Both attempts make what compiling the author's part makes.
  rw [← heq' hnone, heq h]
  exact eq_done_of_failure_eq_none h

/-! ## The bundle that is kept -/

/-- A bundle that is kept is the one that compiling makes, and so is everything else. -/
def UpToDate (s : Session) : Prop := s.bundle.isSome → s.compile = s.done

theorem UpToDate.compile {s : Session} (h : s.UpToDate) : s.compile.session.UpToDate := by
  intro hbundle
  cases hfailure : s.compile.failure with
  | none => exact compile_compile hfailure
  | some failure =>
    -- An attempt that fails keeps the bundle, and with a bundle no attempt fails.
    rw [compile_of_error (failure_compile_eq_some_iff.1 hfailure)] at hbundle
    rw [h hbundle] at hfailure
    exact absurd hfailure (by simp [done])

/-- **The bundle** that is kept is never out of date. -/
theorem UpToDate.run {s : Session} (h : s.UpToDate) (c : Command) : (s.run c).session.UpToDate := by
  cases c with
  | directive d =>
    by_cases hd : d = .compile
    · subst hd
      exact h.compile
    · intro hbundle
      have hnone : (s.run (.directive d)).session.bundle = none := by
        show (s.process d).session.bundle = none
        rw [process_eq_author s hd, (author_keeps _ d).2.2]
      rw [hnone] at hbundle
      exact absurd hbundle (by simp)
  | other v => exact h
  | compile => exact h.compile
  | reset => exact fun hbundle => absurd hbundle (by simp [Session.run, reset, start, done])

theorem upToDate_after (settings : Settings) (ds : Declarations) (cs : List Command) :
    ((start settings ds).after cs).UpToDate :=
  after_of_run (fun _ c h => h.run c) (fun h => absurd h (by simp [start])) cs

/-- Taking the bundle that is kept is as good as compiling. -/
theorem UpToDate.finish_eq_compile {s : Session} (h : s.UpToDate) : s.finish = s.compile := by
  unfold finish
  split
  · next hbundle => exact (h hbundle).symm
  · rfl

/-! ## Runs without attempts -/

/-- Whether a command is an attempt at compiling. -/
def Command.attempts : Command → Bool
  | directive .compile | compile => true
  | _ => false

/-- Without the attempts at compiling. -/
def withoutAttempts (cs : List Command) : List Command := cs.filter fun c => !c.attempts

theorem withoutAttempts_withoutAttempts (cs : List Command) :
    withoutAttempts (withoutAttempts cs) = withoutAttempts cs := by
  simp only [withoutAttempts, List.filter_filter, Bool.and_self]

/-- What the author has made after a command, if the command is not an attempt at compiling. -/
theorem authored_run (s : Session) (c : Command) :
    (s.run c).session.authored
      = if c.attempts then s.authored else (s.authored.run c).session := by
  cases c with
  | directive d =>
    by_cases hd : d = .compile
    · subst hd
      exact s.authored_compile
    · have hattempts : Command.attempts (.directive d) = false := by
        cases d <;> first | rfl | exact absurd rfl hd
      rw [hattempts]
      show (s.process d).session.authored = (s.authored.process d).session
      rw [process_eq_author s hd, process_eq_author s.authored hd]
      exact congrArg Outcome.session (author_authored { s with bundle := none } d)
  | other v => rfl
  | compile => exact s.authored_compile
  | reset => rfl

/-- **What the author has made** in a run is what the run makes without attempts at compiling. -/
theorem authored_after (s : Session) (cs : List Command) :
    (s.after cs).authored = s.authored.after (withoutAttempts cs) := by
  induction cs generalizing s with
  | nil => rfl
  | cons c cs ih =>
    rw [after_cons, ih, authored_run, withoutAttempts, withoutAttempts]
    cases hc : c.attempts with
    | true => rw [List.filter_cons_of_neg (by simp [hc])]; rfl
    | false => rw [List.filter_cons_of_pos (by simp [hc])]; rfl

/-- Without attempts there is only what the author has made. -/
theorem authored_start (settings : Settings) (ds : Declarations) :
    (start settings ds).authored = start settings ds := rfl

/-- The log after a compilation that succeeds: what directives have said, and after it what this
compilation says. -/
theorem messages_compile {s : Session} (h : s.compile.failure = none) :
    s.compile.session.messages = s.authored.messages ++ s.compilation.messages
      ∧ (∀ m ∈ s.authored.messages, m.stage = .authoring)
      ∧ ∀ m ∈ s.compilation.messages, m.stage = .compiling := by
  obtain ⟨bundle, hok⟩ := failure_compile_eq_none_iff.1 h
  rw [compile_of_ok hok]
  refine ⟨rfl, fun m hm => ?_, fun m hm => Game.stage_of_mem_compile hok hm⟩
  exact of_decide_eq_true (List.mem_filter.1 hm).2

/-- **Attempts at compiling leave no trace.** Let `s` be a session after any commands, and `r` the
session after the same commands without the attempts at compiling. Finishing `s` fails for the same
reason as compiling `r`, and if it does not fail it has the same outcome in all respects. The log
then has what directives have said and what one compilation says. Compiling again changes nothing,
and a bundle that is kept at `s` is what compiling `s` makes. -/
theorem finish_eq_compile_without (settings : Settings) (ds : Declarations) (cs : List Command) :
    let s := (start settings ds).after cs
    let r := (start settings ds).after (withoutAttempts cs)
    s.finish.failure = r.compile.failure
      ∧ (s.finish.failure = none → s.finish = r.compile
          ∧ s.finish.session.messages = r.messages ++ r.compilation.messages
          ∧ (∀ m ∈ r.messages, m.stage = .authoring)
          ∧ ∀ m ∈ r.compilation.messages, m.stage = .compiling)
      ∧ (s.compile.failure = none → s.compile.session.compile = s.compile.session.done)
      ∧ (s.bundle.isSome → s.compile = s.done) := by
  intro s r
  have hr : s.authored = r := by rw [authored_after, authored_start]
  have hr' : r.authored = r := by
    rw [authored_after, authored_start, withoutAttempts_withoutAttempts]
  -- A bundle that is kept stands for a compilation, so it is enough to compare two of them.
  have huptodate := upToDate_after settings ds cs
  obtain ⟨hfailure, heq⟩ := s.compile_authored
  rw [hr] at hfailure heq
  rw [huptodate.finish_eq_compile]
  refine ⟨hfailure.symm, fun h => ⟨(heq h).symm, ?_⟩, compile_compile, huptodate⟩
  rw [← heq h]
  simpa only [hr'] using messages_compile (hfailure.trans h)

/-- A run with an attempt that fails, one that succeeds on the way, and one at the end. -/
def attemptsOnTheWay : List Command := [
  .directive (.addPath "W" "V"),
  .compile,
  .directive (.addWorld worldW),
  .directive (.addWorld worldV),
  .compile,
  .directive (.setLevelIndex 1),
  .directive (.declareStatement (plainExercise (some "foo") propP)),
  .directive .compile]

/-- The attempts leave no trace in the outcome. -/
theorem finish_attemptsOnTheWay :
    ((start .standard .empty).after attemptsOnTheWay).bundle.isSome
      ∧ ((start .standard .empty).after attemptsOnTheWay).finish.failure = none
      ∧ ((start .standard .empty).after attemptsOnTheWay).finish
        = ((start .standard .empty).after (withoutAttempts attemptsOnTheWay)).compile
      ∧ ((start .standard .empty).after attemptsOnTheWay).compile
        = ((start .standard .empty).after attemptsOnTheWay).done := by
  have hbundle : ((start .standard .empty).after attemptsOnTheWay).bundle.isSome := by
    decide +kernel
  have hfailure : ((start .standard .empty).after attemptsOnTheWay).finish.failure = none := by
    decide +kernel
  obtain ⟨-, hfinish, -, hkept⟩ := finish_eq_compile_without .standard .empty attemptsOnTheWay
  exact ⟨hbundle, hfailure, (hfinish hfailure).1, hkept hbundle⟩

end Session
end Curriculum
