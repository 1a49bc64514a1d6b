import Curriculum.GoalKey

/-!
# The checker

Statements are not proved here. The checker goes through a script step by step
and believes it: `sorry` is accepted with a warning, a step that starts with
`fail` rejects the statement, a hint is reported together with the proof state
it is about, and everything else is accepted in silence. A statement without a
script is not proved. A statement that is accepted is declared.
-/

namespace Curriculum

/-- The declared names with their types. -/
abbrev Declarations := OrderedMap String String

/-- A declaration as it is shown. A type that starts with a bracket or a colon follows its name
directly. -/
def renderDeclaration (name type : String) : String :=
  match type.toList.head? with
  | some c => if ['(', ':', '{', '['].contains c then name ++ " " ++ type else name ++ " : " ++ type
  | none => name ++ " : " ++ type

/-- The declaration of a name as it is shown, if there is one. -/
def Declarations.rendered? (ds : Declarations) (name : String) : Option String :=
  (ds.get? name).map (renderDeclaration name)

namespace Checker

/-- The proof state that a hint is about: the one it names, or, if it names no goal, the one at the
start of the statement, with what the hint says about bindings and hypotheses kept. -/
def contextOf (signature : Signature) (context : HintContext) : HintContext :=
  if context.goal = "" then
    { bindings :=
        if context.bindings.isEmpty then signature.binders.mapWithKey fun name _ => name
        else context.bindings
      hypotheses :=
        if context.hypotheses.isEmpty then signature.binders else context.hypotheses
      goal := signature.conclusion.val }
  else context

/-- A hint as it is reported. -/
def hintRecord (signature : Signature) (step : HintStep) : HintRecord :=
  let context := contextOf signature step.context
  ⟨step.strict, step.hidden, context, step.text, GoalKey.ofContext context⟩

/-- Whether a step, without the blanks around it, rejects the statement. -/
def isFailure (step : String) : Bool := "fail".toList.isPrefixOf step.toList

/-- Goes through a script. -/
def replay (signature : Signature) : List ScriptStep → Bool × List Diagnostic
  | [] => (true, [])
  | .hint step :: rest =>
    let (success, reports) := replay signature rest
    (success, .hint (hintRecord signature step) :: reports)
  | .tactic text :: rest =>
    let step := Text.strip text
    if step = "sorry" then
      let (success, reports) := replay signature rest
      (success, .plain .warning "declaration uses 'sorry'" :: reports)
    else if isFailure step then (false, [.plain .error ("tactic failed: " ++ step)])
    else replay signature rest

/-- What the checker makes of a statement. -/
structure Verdict where
  success : Bool
  diagnostics : List Diagnostic
  /-- The declarations afterwards. -/
  declarations : Declarations
deriving DecidableEq

/-- Checks a statement and declares it if it is accepted. -/
def elaborate (ds : Declarations) (theoremName : String) (signature : Signature)
    (script : List ScriptStep) : Verdict :=
  if script.isEmpty then
    ⟨false, [.plain .error ("unsolved goals: " ++ signature.conclusion.val)], ds⟩
  else
    let (success, reports) := replay signature script
    ⟨success, reports, if success then ds.insert theoremName signature.render else ds⟩

end Checker
end Curriculum
