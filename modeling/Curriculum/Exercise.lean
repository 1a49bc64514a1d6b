import Curriculum.Message
import Curriculum.OrderedMap

/-!
# Exercises

The statement of a level: what is to be proved, the script that proves it, and
the hints woven into the script. A hint step is written by the author; a hint
is what it becomes once the checker has reached it, keyed by the proof state
at that point.
-/

namespace Curriculum

/-- The proof state at a point of a script: the texts that local names stand for, the hypotheses
with their types, and the goal. -/
structure HintContext where
  bindings : OrderedMap String String
  hypotheses : OrderedMap String String
  goal : String
deriving DecidableEq

/-- The state about which nothing is said. -/
def HintContext.empty : HintContext := ⟨.empty, .empty, ""⟩

/-- A hint as it is written into a script. -/
structure HintStep where
  strict : Bool
  hidden : Bool
  context : HintContext
  text : String
deriving DecidableEq

/-- One step of a script. -/
inductive ScriptStep where
  | tactic (text : String)
  | hint (step : HintStep)
deriving DecidableEq

/-- What a statement claims: bound variables and hypotheses in order, and the proposition. -/
structure Signature where
  binders : OrderedMap String String
  conclusion : NonEmptyText
deriving DecidableEq

/-- The type that a signature declares. -/
def Signature.render (s : Signature) : String :=
  let binders := s.binders.entries.map fun (name, type) => "(" ++ name ++ " : " ++ type ++ ")"
  if binders.isEmpty then ": " ++ s.conclusion.val
  else " ".intercalate binders ++ " : " ++ s.conclusion.val

/-- A statement as its author wrote it. -/
structure Exercise where
  name : Option String
  description : Option String
  signature : Signature
  script : List ScriptStep
deriving DecidableEq

/-- A hint bound to a proof state. -/
structure Hint where
  /-- The key of the state, which does not depend on how hypotheses are named. -/
  goal : String
  text : String
  /-- Whether the state has to match exactly. -/
  strict : Bool
  /-- Whether it is shown on request only. -/
  hidden : Bool
deriving DecidableEq, Repr

/-- The statement of a level after it has been checked. -/
structure Statement where
  /-- The name that the author asked for. -/
  name : Option String
  description : Option String
  signature : Signature
  /-- The namespaces that are open while it is checked. -/
  scope : List String
  /-- The name it is declared under. -/
  theoremName : String
  success : Bool
  /-- The declaration as shown to the learner, once the game is compiled. -/
  preview : Option String
deriving DecidableEq

/-! ## What a checker reports -/

/-- A hint as the checker reports it, its text not yet filled in. -/
structure HintRecord where
  strict : Bool
  hidden : Bool
  context : HintContext
  text : String
  /-- The key of the state. -/
  goal : String
deriving DecidableEq

/-- One record of a checker's output. -/
inductive Diagnostic where
  | plain (severity : Severity) (text : String)
  | hint (record : HintRecord)
deriving DecidableEq

end Curriculum
