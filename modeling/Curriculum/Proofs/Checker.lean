import Mathlib.Data.List.TakeWhile
import Curriculum.Checker
import Curriculum.Hints

/-!
# What the checker makes of a script

A script is gone through up to the first step that rejects the statement; the
steps before it are those that are reached, `reached`. Every report is about one
step: hints and warnings about the steps that are reached, and an error about the
one that rejects (`replay_eq`). So what the author is told and which hints the
level gets can be read off the script, `plainOf_elaborate` and
`hintsOf_elaborate`.

Hints pass and nothing is said about them in plain words. One would think that
they can be left out of a script without a difference to the verdict, and while
there are other steps that is so. But a script that has no step at all is refused,
and a script that has nothing but hints is accepted, although it proves no more:
`agreesButForHints_iff` says that this is the only exception, and
`only_hints_accepted` is a script for which it makes the difference.
-/

namespace Curriculum

namespace ScriptStep

/-- Whether a step does not reject the statement it belongs to. -/
def passes : ScriptStep → Bool
  | tactic text => !Checker.isFailure (Text.strip text)
  | hint _ => true

/-- Whether a step is part of the proof, and not a hint. -/
def isTactic : ScriptStep → Bool
  | tactic _ => true
  | hint _ => false

/-- The hint that a step is. -/
def hint? : ScriptStep → Option HintStep
  | tactic _ => none
  | hint step => some step

/-- What is said about a step that leaves the proof incomplete. -/
def warning? : ScriptStep → Option (Severity × String)
  | tactic text =>
    if Text.strip text = "sorry" then some (.warning, "declaration uses 'sorry'") else none
  | hint _ => none

/-- What is said about a step that rejects the statement. -/
def rejection? : ScriptStep → Option (Severity × String)
  | tactic text => some (.error, "tactic failed: " ++ Text.strip text)
  | hint _ => none

end ScriptStep

/-- Whether a report is no hint. -/
def Diagnostic.isPlain : Diagnostic → Bool
  | plain .. => true
  | hint _ => false

/-- Whether a statement is accepted: it has a script, and no step of it rejects the statement. -/
def Exercise.accepted (e : Exercise) : Bool := !e.script.isEmpty && e.script.all ScriptStep.passes

namespace Checker

/-- The steps before the first one that rejects the statement, all if there is none. -/
def reached (script : List ScriptStep) : List ScriptStep := script.takeWhile ScriptStep.passes

/-- What is reported about a step that is reached. -/
def report? (signature : Signature) : ScriptStep → Option Diagnostic
  | .hint step => some (.hint (hintRecord signature step))
  | .tactic text => (ScriptStep.tactic text).warning?.map fun m => .plain m.1 m.2

/-- What is said in plain words about a script: that there is none, or the warnings about the steps
that are reached and the reason of the rejection. -/
def said (signature : Signature) (script : List ScriptStep) : List (Severity × String) :=
  if script = [] then [(.error, "unsolved goals: " ++ signature.conclusion.val)]
  else (reached script).filterMap ScriptStep.warning?
    ++ ((script.find? fun step => !step.passes).bind ScriptStep.rejection?).toList

theorem not_isFailure_sorry : isFailure "sorry" = false := by decide

/-! ## Reports -/

@[simp] theorem plainOf_hint (record : HintRecord) (rest : List Diagnostic) :
    plainOf (.hint record :: rest) = plainOf rest := rfl

@[simp] theorem plainOf_plain (severity : Severity) (text : String) (rest : List Diagnostic) :
    plainOf (.plain severity text :: rest) = (severity, text) :: plainOf rest := rfl

theorem plainOf_append (ds ds' : List Diagnostic) :
    plainOf (ds ++ ds') = plainOf ds ++ plainOf ds' := List.filterMap_append

@[simp] theorem hintsOf_hint (record : HintRecord) (rest : List Diagnostic) :
    hintsOf (.hint record :: rest) = record.hint :: hintsOf rest := rfl

@[simp] theorem hintsOf_plain (severity : Severity) (text : String) (rest : List Diagnostic) :
    hintsOf (.plain severity text :: rest) = hintsOf rest := rfl

theorem hintsOf_append (ds ds' : List Diagnostic) :
    hintsOf (ds ++ ds') = hintsOf ds ++ hintsOf ds' := List.filterMap_append

/-- What is said in plain words about steps that are reached, and which hints they are. -/
theorem plainOf_reports (signature : Signature) (steps : List ScriptStep) :
    plainOf (steps.filterMap (report? signature)) = steps.filterMap ScriptStep.warning?
      ∧ hintsOf (steps.filterMap (report? signature))
        = (steps.filterMap ScriptStep.hint?).map fun step => (hintRecord signature step).hint := by
  induction steps with
  | nil => exact ⟨rfl, rfl⟩
  | cons step rest ih =>
    obtain ⟨hplain, hhints⟩ := ih
    simp only [List.filterMap_cons]
    cases step with
    | hint step => simp [report?, ScriptStep.warning?, ScriptStep.hint?, hplain, hhints]
    | tactic text =>
      by_cases hsorry : Text.strip text = "sorry"
      · simp [report?, ScriptStep.warning?, ScriptStep.hint?, hsorry, hplain, hhints]
      · simp [report?, ScriptStep.warning?, ScriptStep.hint?, hsorry, hplain, hhints]

/-! ## Scripts -/

/-- **Scripts.** A script goes through if every step passes, and every report is about a step that
is reached or about the one that rejects. -/
theorem replay_eq (signature : Signature) (script : List ScriptStep) :
    replay signature script
      = (script.all ScriptStep.passes,
        (reached script).filterMap (report? signature)
          ++ (((script.find? fun step => !step.passes).bind ScriptStep.rejection?).map
            fun m => .plain m.1 m.2).toList) := by
  induction script with
  | nil => rfl
  | cons step rest ih =>
    cases hpasses : step.passes with
    | false =>
      -- Only a tactic rejects, and not `sorry`: the replay ends here.
      cases step with
      | hint step => exact absurd hpasses (by simp [ScriptStep.passes])
      | tactic text =>
        have hfail : isFailure (Text.strip text) = true := by
          simpa [ScriptStep.passes] using hpasses
        have hsorry : Text.strip text ≠ "sorry" := by
          intro h
          rw [h, not_isFailure_sorry] at hfail
          exact Bool.false_ne_true hfail
        simp [replay, reached, hpasses, hfail, hsorry, ScriptStep.rejection?]
    | true =>
      have hreached : reached (step :: rest) = step :: reached rest :=
        List.takeWhile_cons_of_pos hpasses
      rw [hreached, List.all_cons, hpasses, Bool.true_and, List.filterMap_cons,
        List.find?_cons_of_neg (by simp [hpasses])]
      cases step with
      | hint step =>
        simp only [replay, ih, report?]
        rfl
      | tactic text =>
        have hpass : isFailure (Text.strip text) = false := by
          simpa [ScriptStep.passes] using hpasses
        by_cases hsorry : Text.strip text = "sorry"
        · simp only [replay, ih, report?, ScriptStep.warning?, hsorry, if_true]
          rfl
        · simp [replay, ih, report?, ScriptStep.warning?, hsorry, hpass]

/-- Leaving the hints out of a script leaves them out of the reports. -/
theorem replay_filter_isTactic (signature : Signature) (script : List ScriptStep) :
    replay signature (script.filter ScriptStep.isTactic)
      = ((replay signature script).1, (replay signature script).2.filter Diagnostic.isPlain) := by
  induction script with
  | nil => rfl
  | cons step rest ih =>
    cases step with
    | hint step =>
      rw [List.filter_cons_of_neg (by simp [ScriptStep.isTactic]), ih]
      simp [replay, Diagnostic.isPlain]
    | tactic text =>
      rw [List.filter_cons_of_pos rfl]
      simp only [replay]
      split
      · rw [ih]
        rfl
      · split
        · rfl
        · exact ih

/-! ## Statements -/

/-- A statement is declared if it is accepted. -/
theorem elaborate_accepted (ds : Declarations) (theoremName : String) (e : Exercise) :
    (elaborate ds theoremName e.signature e.script).success = e.accepted
      ∧ (elaborate ds theoremName e.signature e.script).declarations
        = if e.accepted then ds.insert theoremName e.signature.render else ds := by
  simp only [elaborate, Exercise.accepted]
  split
  · next h => simp [h]
  · next h => simp [h, replay_eq]

/-- What is said about a statement in plain words, and which hints it gets: those that are
reached. -/
theorem diagnostics_elaborate (ds : Declarations) (theoremName : String) (signature : Signature)
    (script : List ScriptStep) :
    plainOf (elaborate ds theoremName signature script).diagnostics = said signature script
      ∧ hintsOf (elaborate ds theoremName signature script).diagnostics
        = ((reached script).filterMap ScriptStep.hint?).map
          fun step => (hintRecord signature step).hint := by
  rw [elaborate, said]
  by_cases h : script = []
  · subst h
    exact ⟨rfl, rfl⟩
  · obtain ⟨hplain, hhints⟩ := plainOf_reports signature (reached script)
    rw [if_neg (by simp [h]), if_neg h, replay_eq]
    dsimp only
    rw [plainOf_append, hplain, hintsOf_append, hhints]
    cases (script.find? fun step => !step.passes).bind ScriptStep.rejection? with
    | none => exact ⟨rfl, List.append_nil _⟩
    | some m => exact ⟨rfl, List.append_nil _⟩

theorem severity_of_warning? {step : ScriptStep} {m : Severity × String}
    (h : step.warning? = some m) : m.1 = .warning := by
  cases step with
  | hint step => exact absurd h (by simp [ScriptStep.warning?])
  | tactic text =>
    rw [ScriptStep.warning?] at h
    split at h
    · rw [← Option.some.inj h]
    · exact absurd h (by simp)

/-- An error is among what is said exactly if a statement is not accepted. -/
theorem exists_error_said_iff (e : Exercise) :
    (∃ m ∈ said e.signature e.script, m.1 = .error) ↔ e.accepted = false := by
  rw [said, Exercise.accepted]
  by_cases h : e.script = []
  · simp [h]
  · rw [if_neg h]
    constructor
    · intro herror
      obtain ⟨m, hm, herror⟩ := herror
      rcases List.mem_append.1 hm with hm | hm
      · obtain ⟨step, -, hstep⟩ := List.mem_filterMap.1 hm
        rw [severity_of_warning? hstep] at herror
        exact absurd herror (by simp)
      · -- There is a step that rejects, so the steps do not all pass.
        obtain ⟨step, hfind, -⟩ := Option.bind_eq_some_iff.1 (Option.mem_toList.1 hm)
        have hstep := List.find?_some hfind
        have hall : e.script.all ScriptStep.passes = false :=
          List.all_eq_false.2 ⟨step, List.mem_of_find?_eq_some hfind, by simpa using hstep⟩
        rw [hall, Bool.and_false]
    · intro hrejected
      have hall : e.script.all ScriptStep.passes = false := by simpa [h] using hrejected
      obtain ⟨step, hstep, hpasses⟩ := List.all_eq_false.1 hall
      obtain ⟨first, hfind⟩ := Option.isSome_iff_exists.1
        (List.find?_isSome.2 ⟨step, hstep, by simpa using hpasses⟩ :
          (e.script.find? fun step => !step.passes).isSome)
      have hfirst := List.find?_some hfind
      cases first with
      | hint step => exact absurd hfirst (by simp [ScriptStep.passes])
      | tactic text =>
        rw [hfind]
        exact ⟨_, List.mem_append_right _ (List.mem_singleton_self _), rfl⟩

/-- Incomplete proofs are warned about, unless the script is rejected before. -/
theorem exists_warning_said {e : Exercise} (h : e.accepted = true) {text : String}
    (htext : .tactic text ∈ e.script) (hskip : Text.strip text = "sorry") :
    ∃ m ∈ said e.signature e.script, m.1 = .warning := by
  rw [Exercise.accepted, Bool.and_eq_true] at h
  have hreached : reached e.script = e.script :=
    List.takeWhile_eq_self_iff.2 (List.all_eq_true.1 h.2)
  rw [said, if_neg (by simpa using h.1), hreached]
  refine ⟨(.warning, "declaration uses 'sorry'"), List.mem_append_left _ ?_, rfl⟩
  exact List.mem_filterMap.2 ⟨_, htext, by simp [ScriptStep.warning?, hskip]⟩

/-! ## Hints -/

/-- Two verdicts are the same apart from the hints, of which the first has none. -/
structure AgreesButForHints (bare whole : Verdict) : Prop where
  success : bare.success = whole.success
  diagnostics : bare.diagnostics = whole.diagnostics.filter Diagnostic.isPlain
  declarations : bare.declarations = whole.declarations

/-- Where there are other steps, or no steps at all, hints can be left out. -/
theorem agreesButForHints_of_tactic (ds : Declarations) (theoremName : String)
    (signature : Signature) {script : List ScriptStep}
    (h : script = [] ∨ ∃ text, .tactic text ∈ script) :
    AgreesButForHints (elaborate ds theoremName signature (script.filter ScriptStep.isTactic))
      (elaborate ds theoremName signature script) := by
  rcases h with hnil | ⟨text, htext⟩
  · subst hnil
    exact ⟨rfl, rfl, rfl⟩
  · have hscript : ¬ script.isEmpty = true := by
      rw [List.isEmpty_iff]
      exact List.ne_nil_of_mem htext
    have hbare : ¬ (script.filter ScriptStep.isTactic).isEmpty = true := by
      rw [List.isEmpty_iff]
      exact List.ne_nil_of_mem (List.mem_filter.2 ⟨htext, rfl⟩)
    rw [elaborate, elaborate, if_neg hscript, if_neg hbare, replay_filter_isTactic]
    exact ⟨rfl, rfl, rfl⟩

/-- A script that has nothing but hints is accepted, and refused without them. -/
theorem elaborate_of_only_hints (ds : Declarations) (theoremName : String) (signature : Signature)
    {script : List ScriptStep} (hscript : script ≠ []) (h : ∀ text, .tactic text ∉ script) :
    (elaborate ds theoremName signature script).success = true
      ∧ (elaborate ds theoremName signature script).declarations
        = ds.insert theoremName signature.render
      ∧ elaborate ds theoremName signature (script.filter ScriptStep.isTactic)
        = ⟨false, [.plain .error ("unsolved goals: " ++ signature.conclusion.val)], ds⟩ := by
  have hhint : ∀ step ∈ script, step.passes = true ∧ ¬ step.isTactic = true := by
    intro step hstep
    cases step with
    | hint step => exact ⟨rfl, Bool.false_ne_true⟩
    | tactic text => exact absurd hstep (h text)
  have hbare : script.filter ScriptStep.isTactic = [] :=
    List.filter_eq_nil_iff.2 fun step hstep => (hhint step hstep).2
  have hall : script.all ScriptStep.passes = true :=
    List.all_eq_true.2 fun step hstep => (hhint step hstep).1
  rw [hbare, elaborate, if_neg (by simp [hscript]), replay_eq, hall]
  exact ⟨rfl, rfl, rfl⟩

/-- **Hints and verdicts.** Leaving the hints out of a script makes no difference but to the hints
exactly if there are other steps, or no steps at all. If there is nothing but hints, the statement is
accepted and declared with them, and without them it is refused. -/
theorem agreesButForHints_iff (ds : Declarations) (theoremName : String) (signature : Signature)
    (script : List ScriptStep) :
    (AgreesButForHints (elaborate ds theoremName signature (script.filter ScriptStep.isTactic))
          (elaborate ds theoremName signature script)
        ↔ script = [] ∨ ∃ text, .tactic text ∈ script)
      ∧ ((elaborate ds theoremName signature script).success = true
          ∧ (elaborate ds theoremName signature script).declarations
            = ds.insert theoremName signature.render
          ∧ elaborate ds theoremName signature (script.filter ScriptStep.isTactic)
            = ⟨false, [.plain .error ("unsolved goals: " ++ signature.conclusion.val)], ds⟩
        ↔ script ≠ [] ∧ ∀ text, .tactic text ∉ script) := by
  by_cases h : script = [] ∨ ∃ text, .tactic text ∈ script
  · have hagrees := agreesButForHints_of_tactic ds theoremName signature h
    refine ⟨iff_of_true hagrees h, iff_of_false ?_ ?_⟩
    · intro hdiffer
      obtain ⟨hsuccess, -, hbare⟩ := hdiffer
      have hsame := hagrees.success
      rw [hbare, hsuccess] at hsame
      exact Bool.false_ne_true hsame
    · intro hnone
      rcases h with hnil | ⟨text, htext⟩
      · exact hnone.1 hnil
      · exact hnone.2 text htext
  · have hnone : script ≠ [] ∧ ∀ text, .tactic text ∉ script :=
      ⟨fun hnil => h (.inl hnil), fun text htext => h (.inr ⟨text, htext⟩)⟩
    have hdiffer := elaborate_of_only_hints ds theoremName signature hnone.1 hnone.2
    refine ⟨iff_of_false ?_ h, iff_of_true hdiffer hnone⟩
    intro hagrees
    have hsame := hagrees.success
    rw [hdiffer.2.2, hdiffer.1] at hsame
    exact Bool.false_ne_true hsame

/-- A hint on its own is taken for a proof: the statement is accepted with it, and refused without
it. -/
theorem only_hints_accepted :
    let signature : Signature := ⟨.empty, ⟨"P", by decide⟩⟩
    let script : List ScriptStep := [.hint ⟨false, false, .empty, "Think."⟩]
    (elaborate .empty "T" signature script).success = true
      ∧ (elaborate .empty "T" signature script).declarations.get? "T" = some ": P"
      ∧ (elaborate .empty "T" signature (script.filter ScriptStep.isTactic)).success = false := by
  decide +kernel

end Checker
end Curriculum
