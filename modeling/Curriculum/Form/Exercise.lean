import Curriculum.Form.Message
import Curriculum.Schema.Choice
import Curriculum.Exercise

/-!
# Records of exercises

How signatures, scripts, hints and the checker's records are read from and
written as values. A script step is a text or a hint; a diagnostic is a plain
message or a hint record, whichever fits better.
-/

namespace Curriculum

open Schema Form

/-- What is not said about a proof state is empty. -/
def HintContext.read : Reader HintContext := Reader.record fun ms =>
  HintContext.mk
    <$> defaulted "bindings" Reader.texts .empty ms
    <*> defaulted "hypotheses" Reader.texts .empty ms
    <*> defaulted "goal" Reader.text "" ms

/-- The record of a proof state. -/
def HintContext.write (c : HintContext) : Value := record [
  ("bindings", ofTexts c.bindings), ("hypotheses", ofTexts c.hypotheses), ("goal", .text c.goal)]

/-- The word that marks a hint among the directives and the steps of a script. -/
def HintStep.label : String := "declare_hint"

/-- A hint step has a text; it is neither strict nor hidden unless it says so. -/
def HintStep.read : Reader HintStep := Reader.record fun ms =>
  (fun _ => HintStep.mk)
    <$> tagged HintStep.label ms
    <*> defaulted "strict" Reader.bool false ms
    <*> defaulted "hidden" Reader.bool false ms
    <*> defaulted "context" HintContext.read .empty ms
    <*> required "text" Reader.text ms

/-- The record of a hint step. -/
def HintStep.write (s : HintStep) : Value := record [
  ("type", .text HintStep.label), ("strict", .bool s.strict), ("hidden", .bool s.hidden),
  ("context", s.context.write), ("text", .text s.text)]

/-- A step of a script is a text, or else a hint. -/
def ScriptStep.read : Reader ScriptStep := choose [
  ("str", fun v => (Reader.text v).map .tactic),
  ("DeclareHint", fun v => (HintStep.read v).map .hint)]

/-- A tactic is written as its text, a hint as its record. -/
def ScriptStep.write : ScriptStep → Value
  | .tactic s => .text s
  | .hint step => step.write

/-- A signature has a conclusion that is not empty. -/
def Signature.read : Reader Signature := Reader.record fun ms =>
  Signature.mk
    <$> defaulted "binders" Reader.texts .empty ms
    <*> required "conclusion" Reader.nonEmptyText ms

/-- The record of a signature. -/
def Signature.write (s : Signature) : Value := record [
  ("binders", ofTexts s.binders), ("conclusion", .text s.conclusion.val)]

/-- A hint has a key and a text. -/
def Hint.read : Reader Hint := Reader.record fun ms =>
  Hint.mk
    <$> required "goal" Reader.text ms
    <*> required "text" Reader.text ms
    <*> defaulted "strict" Reader.bool false ms
    <*> defaulted "hidden" Reader.bool false ms

/-- The record of a hint. -/
def Hint.write (h : Hint) : Value := record [
  ("goal", .text h.goal), ("text", .text h.text), ("strict", .bool h.strict),
  ("hidden", .bool h.hidden)]

/-- A statement has a signature and the name it is declared under; it counts as accepted unless it
says otherwise. -/
def Statement.read : Reader Statement := Reader.record fun ms =>
  Statement.mk
    <$> optional "name" Reader.text ms
    <*> optional "description" Reader.text ms
    <*> required "signature" Signature.read ms
    <*> defaulted "scope" (Reader.list Reader.text) [] ms
    <*> required "theorem_name" Reader.text ms
    <*> defaulted "success" Reader.bool true ms
    <*> optional "preview" Reader.text ms

/-- The record of a statement. -/
def Statement.write (s : Statement) : Value := record [
  ("name", ofText? s.name), ("description", ofText? s.description),
  ("signature", s.signature.write), ("scope", ofList .text s.scope),
  ("theorem_name", .text s.theoremName), ("success", .bool s.success),
  ("preview", ofText? s.preview)]

/-! ## The checker's records -/

/-- In a hint record the flags are numbers. -/
def HintRecord.read : Reader HintRecord := Reader.record fun ms =>
  HintRecord.mk
    <$> defaulted "strict" Reader.flag false ms
    <*> defaulted "hidden" Reader.flag false ms
    <*> defaulted "context" HintContext.read .empty ms
    <*> required "text" Reader.text ms
    <*> required "goal" Reader.text ms

/-- The record of a reported hint, with flags as numbers. -/
def HintRecord.write (r : HintRecord) : Value :=
  let flag (b : Bool) : Value := .int (if b then 1 else 0)
  record [("strict", flag r.strict), ("hidden", flag r.hidden), ("context", r.context.write),
    ("text", .text r.text), ("goal", .text r.goal)]

namespace Diagnostic

/-- Reads a plain message. -/
def readPlain : Reader Diagnostic := Reader.record fun ms =>
  (fun _ text severity => Diagnostic.plain severity text)
    <$> tagged "plain" ms
    <*> required "text" Reader.text ms
    <*> defaulted "severity" Severity.read .info ms

/-- Reads a hint record in its envelope. -/
def readHint : Reader Diagnostic := Reader.record fun ms =>
  (fun _ => Diagnostic.hint)
    <$> tagged "hint" ms
    <*> required "payload" HintRecord.read ms

/-- A diagnostic is a plain message or a hint record, whichever fits better. -/
def read : Reader Diagnostic := choose [("PlainMessage", readPlain), ("HintMessage", readHint)]

/-- The name of the record that holds a diagnostic. -/
def recordName : Diagnostic → String
  | plain .. => "PlainMessage"
  | hint _ => "HintMessage"

/-- The record of a diagnostic. -/
def write : Diagnostic → Value
  | plain severity text =>
    record [("type", .text "plain"), ("text", .text text), ("severity", severity.write)]
  | hint r => record [("type", .text "hint"), ("payload", r.write)]

end Diagnostic
end Curriculum
