import Curriculum.Proofs.Availability.Refusal
import Curriculum.Proofs.Session.Diagnostics
import Curriculum.Proofs.Session.Remarks
import Curriculum.Proofs.Session.Structure

/-!
# When a session does not compile

A session that directives have built compiles unless its game is refused before
anything is computed (`failure_compile_iff`); there is no other way to fail. A
refusal withdraws what the last compilation said and touches nothing else.

What there is to withdraw is known from the run: `standing` goes through the
commands and keeps what the last successful compilation said, until another
attempt or a new start takes it back. `compiling_messages_after` says that these
are the messages of the log that a compilation is the source of.

Main statement: `compile_outcome`, for every session that can be reached.
-/

namespace Curriculum.Session

/-! ## Refusals -/

theorem validate_withdraw (s : Session) :
    s.withdraw.game.validate s.graph = s.game.validate s.graph :=
  s.game.validate_mapLevels s.graph Level.withdrawn

/-- A session that is refused only loses what the last compilation said. -/
theorem compile_of_validate_error {s : Session} {failure : Failure}
    (h : s.game.validate s.graph = .error failure) : s.compile = ⟨s.withdraw, some failure⟩ := by
  have hcompilation : s.compilation = ⟨s.withdraw.game, s.catalogue, [], .error failure⟩ :=
    Game.compile_of_validate_error ((s.validate_withdraw).trans h) _ _ _
  have hresult : s.compilation.result = .error failure := by rw [hcompilation]
  rw [compile_of_error hresult, hcompilation]
  rfl

namespace WellBuilt

variable {s : Session}

theorem one_le (hs : s.WellBuilt) (hplaced : s.game.Placed) :
    ∀ w ∈ s.game.worlds.values, ∀ index ∈ w.levels.keys, 1 ≤ index := by
  intro w hw index hindex
  obtain ⟨world, hworld⟩ := OrderedMap.mem_values_iff.1 hw
  obtain ⟨l, hl⟩ := OrderedMap.mem_keys_iff.1 hindex
  have hlevel := Game.level?_eq_some_iff.2 ⟨w, hworld, hl⟩
  rw [← (hplaced.level_place world index l hlevel).2]
  exact (hs.ready world index l hlevel).one_le

/-- No level lacks a kind, so a session that passes compiles. -/
theorem failure_compile_of_validate_ok (hs : s.WellBuilt)
    (h : s.game.validate s.graph = .ok ()) : s.compile.failure = none := by
  rw [failure_compile_eq_none_iff, compilation, Game.exists_compile_ok_iff,
    Game.obstacle_eq_none_iff, validate_withdraw]
  refine ⟨h, fun kind => Game.hasKind_iff.2 fun world index l hl => ?_⟩
  rw [game_withdraw, Game.mapLevels_eq_mapLevelsAt, Game.level?_mapLevelsAt] at hl
  obtain ⟨l', hl', rfl⟩ := Option.map_eq_some_iff.1 hl
  exact (hs.ready world index l' hl').hasKinds kind

/-- **A session fails to compile** exactly if its game is refused. -/
theorem failure_compile_iff (hs : s.WellBuilt) {failure : Failure} :
    s.compile.failure = some failure ↔ s.game.validate s.graph = .error failure := by
  constructor
  · intro h
    cases hvalid : s.game.validate s.graph with
    | error failure' =>
      rw [compile_of_validate_error hvalid] at h
      rw [Option.some.inj h]
    | ok _ =>
      rw [hs.failure_compile_of_validate_ok hvalid] at h
      exact absurd h (by simp)
  · intro h
    rw [compile_of_validate_error h]

theorem failure_compile_eq_none_iff (hs : s.WellBuilt) :
    s.compile.failure = none ↔ s.game.validate s.graph = .ok () := by
  refine ⟨fun h => ?_, hs.failure_compile_of_validate_ok⟩
  cases hvalid : s.game.validate s.graph with
  | error failure =>
    rw [compile_of_validate_error hvalid] at h
    exact absurd h (by simp)
  | ok _ => rfl

/-- The bundle of a session that compiles has every declared world once, in an order in which every
path leads forward. -/
theorem exists_bundle (hs : s.WellBuilt) (hplaced : s.game.Placed)
    (h : s.compile.failure = none) :
    ∃ bundle, s.compile.session.bundle = some bundle
      ∧ (bundle.worlds.map (·.id)).Perm s.game.worlds.keys
      ∧ (∀ w ∈ bundle.worlds, s.compile.session.game.worlds.get? w.id = some w)
      ∧ ∀ u v, s.graph.Path u v →
        (bundle.worlds.map (·.id)).idxOf u < (bundle.worlds.map (·.id)).idxOf v := by
  have hvalid := Game.validate_eq_ok_iff_contiguous.1 (hs.failure_compile_eq_none_iff.1 h)
  obtain ⟨bundle, hok⟩ := Session.failure_compile_eq_none_iff.1 h
  -- Compiling keeps which worlds there are, and what they say about their places.
  have hgame : s.compile.session.game.mapLevels Level.bare = s.game.mapLevels Level.bare :=
    mapLevels_game_compile (fun _ _ _ => rfl) (fun _ _ _ _ _ => rfl) (fun _ => rfl) s
  have hplaced' := hplaced.of_mapLevels (F := Level.bare) (fun _ => ⟨rfl, rfl⟩) hgame
  have hkeys : s.compile.session.game.worlds.keys = s.game.worlds.keys := by
    simpa only [Game.mapLevels, OrderedMap.keys_map] using congrArg (·.worlds.keys) hgame
  have hdeclared : ∀ world ∈ s.graph.worlds, world ∈ s.compile.session.game.worlds.keys := by
    rw [hkeys]
    exact hvalid.2.1
  have hbundle : s.compile.session.game.bundle s.graph s.compilation.catalogue = .ok bundle := by
    rw [(game_compile s).1]
    exact Game.bundle_of_compile_ok hok
  obtain ⟨hperm, hworlds, hforward⟩ :=
    Game.worlds_of_bundle hplaced'.world_id hdeclared hbundle
  have hworlds' : s.graph.worlds.Perm s.game.worlds.keys :=
    (List.perm_ext_iff_of_nodup s.graph.worlds_nodup s.game.worlds.nodup_keys).2 fun world =>
      ⟨hvalid.2.1 world, hs.declared world⟩
  refine ⟨bundle, ?_, hperm.trans hworlds', hworlds, hforward⟩
  rw [compile_of_ok hok]

end WellBuilt

/-! ## What stands of a compilation -/

/-- What stands of a compilation after a command, if `said` stands before it. -/
def saidAfter (s : Session) (said : List Message) (c : Command) : List Message :=
  match c with
  | .reset => []
  | c =>
    if c.attempts then
      if s.compile.failure.isNone then s.compilation.messages else []
    else said

/-- What stands of a compilation after a run, if `said` stands before it. -/
def standing (s : Session) (said : List Message) : List Command → List Message
  | [] => said
  | c :: cs => (s.run c).session.standing (s.saidAfter said c) cs

theorem compiling_filter_authoring (messages : List Message) :
    (messages.filter (·.stage = .authoring)).filter (·.stage = .compiling) = [] := by
  refine List.filter_eq_nil_iff.2 fun m hm => ?_
  have hstage : m.stage = .authoring := of_decide_eq_true (List.mem_filter.1 hm).2
  simp [hstage]

theorem compiling_messages_compile (s : Session) :
    s.compile.session.messages.filter (·.stage = .compiling)
      = if s.compile.failure.isNone then s.compilation.messages else [] := by
  cases h : s.compilation.result with
  | error failure =>
    rw [compile_of_error h]
    exact compiling_filter_authoring s.messages
  | ok bundle =>
    have hall : s.compilation.messages.filter (·.stage = .compiling) = s.compilation.messages :=
      List.filter_eq_self.2 fun m hm => decide_eq_true (Game.stage_of_mem_compile h hm)
    rw [compile_of_ok h]
    show (s.withdraw.messages ++ s.compilation.messages).filter _ = s.compilation.messages
    rw [List.filter_append, hall, withdraw, compiling_filter_authoring, List.nil_append]

/-- Directives that do not compile say nothing in the name of a compilation. -/
theorem compiling_messages_process (s : Session) {d : Directive} (hd : d ≠ .compile) :
    (s.process d).session.messages.filter (·.stage = .compiling)
      = s.messages.filter (·.stage = .compiling) := by
  rw [process_eq_author s hd, messages_author, List.filter_append]
  refine (congrArg (_ ++ ·) (List.filter_eq_nil_iff.2 fun m hm => ?_)).trans (List.append_nil _)
  obtain ⟨r, -, rfl⟩ := List.mem_map.1 hm
  simp [Remark.message]

/-- One command changes what stands of a compilation. -/
theorem compiling_messages_run (s : Session) (c : Command) :
    (s.run c).session.messages.filter (·.stage = .compiling)
      = s.saidAfter (s.messages.filter (·.stage = .compiling)) c := by
  cases c with
  | directive d =>
    by_cases hd : d = .compile
    · subst hd
      exact s.compiling_messages_compile
    · have hattempts : Command.attempts (.directive d) = false := by
        cases d <;> first | rfl | exact absurd rfl hd
      rw [saidAfter, hattempts]
      · exact s.compiling_messages_process hd
      · simp
  | other v => rfl
  | compile => exact s.compiling_messages_compile
  | reset => rfl

/-- **What a compilation has said** in the log of a run is what stands of the last one. -/
theorem compiling_messages_after (s : Session) (cs : List Command) :
    (s.after cs).messages.filter (·.stage = .compiling)
      = s.standing (s.messages.filter (·.stage = .compiling)) cs := by
  induction cs generalizing s with
  | nil => rfl
  | cons c cs ih => rw [after_cons, ih, compiling_messages_run, standing]

/-! ## All outcomes -/

/-- **When a session compiles.** Whatever was done before, an attempt at compiling fails exactly for
what the game is refused for: a cycle, else the first world of the graph that is not declared, else
the first world with a gap between its levels. If there is nothing of this it succeeds, and the
bundle has every declared world once, in an order in which every path leads forward. If it fails,
nothing changes but that the messages of the last compilation are withdrawn, from the log and from
the levels that they are about. -/
theorem compile_outcome (settings : Settings) (ds : Declarations) (cs : List Command) :
    let s := (start settings ds).after cs
    let t := s.compile.session
    let said := (start settings ds).standing [] cs
    (∀ failure, s.compile.failure = some failure ↔ s.game.Refusal s.graph failure)
      ∧ (s.compile.failure = none
        ↔ (∀ w, ¬ s.graph.Path w w) ∧ (∀ world ∈ s.graph.worlds, world ∈ s.game.worlds.keys)
          ∧ ∀ w ∈ s.game.worlds.values, w.Contiguous)
      ∧ (s.compile.failure = none → ∃ bundle, t.bundle = some bundle
        ∧ (bundle.worlds.map (·.id)).Perm s.game.worlds.keys
        ∧ (∀ w ∈ bundle.worlds, t.game.worlds.get? w.id = some w)
        ∧ ∀ u v, s.graph.Path u v →
          (bundle.worlds.map (·.id)).idxOf u < (bundle.worlds.map (·.id)).idxOf v)
      ∧ (s.compile.failure ≠ none →
        t = { s with
              messages := s.messages.filter (·.stage = .authoring)
              game := s.game.mapLevels fun l =>
                { l with diagnostics := l.diagnostics.filter (·.stage = .authoring) } }
        ∧ s.messages.filter (·.stage = .compiling) = said
        ∧ ∀ world index l, s.game.level? world index = some l →
          l.diagnostics.filter (·.stage = .compiling)
            = said.filter (·.location.isAt world index)) := by
  intro s t said
  have hs : s.WellBuilt := wellBuilt_after settings ds cs
  have hplaced : s.game.Placed := (settled_after settings ds cs).placed
  have hsaid : s.messages.filter (·.stage = .compiling) = said :=
    (start settings ds).compiling_messages_after cs
  refine ⟨fun failure => ?_, ?_, hs.exists_bundle hplaced, fun hfail => ⟨?_, hsaid, ?_⟩⟩
  · rw [hs.failure_compile_iff, Game.validate_eq_error_iff (hs.one_le hplaced)]
  · rw [hs.failure_compile_eq_none_iff, Game.validate_eq_ok_iff_contiguous]
  · obtain ⟨failure, hfailure⟩ := Option.ne_none_iff_exists'.1 hfail
    exact congrArg Outcome.session (compile_of_validate_error (hs.failure_compile_iff.1 hfailure))
  · intro world index l hl
    have hmirrored : l.diagnostics = s.messages.filter (·.location.isAt world index) := by
      rw [← mirrored_after settings ds cs world index, Game.seenAt, hl]
      rfl
    rw [hmirrored, ← hsaid, List.filter_filter, List.filter_filter]
    simp only [Bool.and_comm]

/-- A compilation warns about a statement that was not accepted, and afterwards a level is added
that leaves a gap. -/
def gapAfterCompile : List Command := [
  .directive (.addWorld worldW),
  .directive (.setLevelIndex 1),
  .directive (.declareStatement { plainExercise none propP with script := [.tactic "fail"] }),
  .compile,
  .directive (.setLevelIndex 3)]

/-- The next attempt is refused for the missing number, and withdraws the warning. -/
theorem refused_gapAfterCompile :
    ((start .standard .empty).after gapAfterCompile).compile.failure
        = some (.missingLevels "W" [2])
      ∧ (((start .standard .empty).after gapAfterCompile).messages.map (·.stage)
          = [.authoring, .compiling])
      ∧ ((start .standard .empty).after gapAfterCompile).compile.session.messages
        = ((start .standard .empty).after gapAfterCompile).messages.filter
            (·.stage = .authoring) := by
  have hfailure : ((start .standard .empty).after gapAfterCompile).compile.failure
      = some (.missingLevels "W" [2]) := by
    decide +kernel
  obtain ⟨-, -, -, hrefused⟩ := compile_outcome .standard .empty gapAfterCompile
  have hsession := (hrefused (by simp [hfailure])).1
  exact ⟨hfailure, by decide +kernel, congrArg Session.messages hsession⟩

end Curriculum.Session
