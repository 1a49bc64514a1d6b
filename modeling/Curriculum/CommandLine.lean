import Curriculum.Document
import Curriculum.Report

/-!
# The command line

A run of the compiler from its options to what it writes. Everything is decided
here; reading the files and variables and writing the results is left to the
program around it. The settings come first, then the level of logging, then the
document, and only then the game is built.
-/

namespace Curriculum.CommandLine

/-- The options of a run. -/
structure Options where
  /-- The name of a game that does not name itself; an empty one is none. -/
  gameName : Option String
  logLevel : Option String
  strict : Bool
deriving DecidableEq, Repr

/-- No options. -/
def Options.none : Options := ⟨.none, .none, false⟩

/-- The names that are accepted for a level of logging. -/
def logLevelNames : List String :=
  ["CRITICAL", "FATAL", "ERROR", "WARNING", "WARN", "INFO", "DEBUG", "NOTSET"]

/-- Why a run ended without a status. -/
inductive RunError where
  | settings (issues : List Schema.Issue)
  | unknownLogLevel (name : String)
  | document (e : DocumentError)
  | failure (f : Failure)

/-- What a run writes. -/
structure Artefacts where
  bundle : Bundle
  messages : List Message

/-- The report among the artefacts. -/
def Artefacts.report (a : Artefacts) (time : String) : String :=
  Report.text a.bundle a.messages time

/-- How a run ends by itself. -/
inductive Result where
  /-- There is something to write. -/
  | written (status : Nat) (artefacts : Artefacts)
  /-- There is nothing to write, for a reason. -/
  | stopped (reason : String)

/-- The status a run ends with. -/
def Result.status : Result → Nat
  | written status _ => status
  | stopped _ => 1

/-- The wording of the errors that end a run. -/
def RunError.message : RunError → String
  | settings issues => issueText issues
  | unknownLogLevel name => "Unknown level of logging: " ++ name
  | document e => e.message
  | failure f => f.message
where
  /-- Issues on one line. -/
  issueText (issues : List Schema.Issue) : String :=
    ", ".intercalate (issues.map fun i => "/".intercalate i.path ++ ": " ++ i.fault.code)

/-- The settings of a run: those of the variables, with the options on top. -/
def settingsOf (vars : Settings.Variables) (options : Options) : Except RunError Settings :=
  match Settings.ofVariables vars with
  | .rejected issues => .error (.settings issues)
  | .accepted settings _ =>
    let name := Text.upperCase (options.logLevel.getD settings.logLevel.label)
    if logLevelNames.contains name then
      .ok { settings with
        defaultGame := textOr options.gameName settings.defaultGame
        strict := settings.strict || options.strict }
    else .error (.unknownLogLevel name)

/-- Builds and compiles the game of a document. -/
def build (settings : Settings) (document : Document) : Outcome :=
  match (Session.start settings document.declarations).processAll document.directives with
  | ⟨s, none⟩ => s.finish
  | outcome => outcome

/-- Builds and compiles a document. A game whose structure is wrong stops the run; any other
failure is an error of the run itself. -/
def compile (settings : Settings) (document : Document) : Except RunError Result :=
  match build settings document with
  | ⟨s, none⟩ =>
    match s.bundle with
    | some bundle => .ok (.written (exitStatus s.messages settings.strict) ⟨bundle, s.messages⟩)
    | none => .ok (.stopped "The game was not compiled")
  | ⟨_, some failure⟩ =>
    if failure.isStructural then .ok (.stopped failure.message) else .error (.failure failure)

/-- Runs the compiler on a document, if there is one. -/
def run (vars : Settings.Variables) (options : Options) (document : Option Value) :
    Except RunError Result := do
  let settings ← settingsOf vars options
  match document with
  | none => return .stopped "There is no document"
  | some v => compile settings (← (Document.load "" (some v)).mapError .document)

end Curriculum.CommandLine
