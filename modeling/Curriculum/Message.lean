import Curriculum.Inventory

/-!
# Messages

What the author is told: a severity, a text, and the place in the game it is
about. A message remembers whether it came up while directives were applied or
while the game was compiled, because a new compilation withdraws the messages
of the one before. `Remark` lists everything that can be said; the wording is
in `Remark.text` and nowhere else.
-/

namespace Curriculum

/-- How serious a message is. -/
inductive Severity where
  | info
  | warning
  | error
deriving DecidableEq, Repr

namespace Severity

/-- All severities, the mildest first. -/
def all : List Severity := [info, warning, error]

/-- The word for a severity. -/
def label : Severity → String
  | info => "info"
  | warning => "warning"
  | error => "error"

/-- The severity that a word names. -/
def ofLabel? (s : String) : Option Severity := all.find? (·.label == s)

end Severity

/-- A place in a game, as precise as it is known. -/
structure Location where
  game : Option String
  world : Option String
  level : Option Int
deriving DecidableEq, Repr

namespace Location

/-- No place in particular. -/
def nowhere : Location := ⟨none, none, none⟩

/-- The parts of a location that are worth naming. -/
def parts (l : Location) : List String :=
  (l.game.toList ++ l.world.toList).filter (· ≠ "")
    ++ l.level.toList.map fun n => "level " ++ toString n

/-- The text of a location. -/
def text (l : Location) : String :=
  if l.parts.isEmpty then "<game>" else " / ".intercalate l.parts

end Location

/-- When a message came up. -/
inductive Stage where
  | authoring
  | compiling
deriving DecidableEq, Repr

/-- A message to the author. -/
structure Message where
  severity : Severity
  text : String
  location : Location
  stage : Stage
deriving DecidableEq, Repr

/-- A message on one line. -/
def Message.line (m : Message) : String :=
  "[" ++ m.severity.label ++ "] " ++ m.location.text ++ ": " ++ m.text

/-- Everything that can be said to the author. -/
inductive Remark where
  /-- A second documentation of a name. -/
  | alreadyDocumented (kind : Kind) (name : String)
  /-- A name that is documented by a description given elsewhere. -/
  | documentedByDescription (kind : Kind) (name : String)
  /-- A name that nothing documents. -/
  | undocumented (kind : Kind) (name : String)
  /-- Something that belongs into a level stands outside of one. -/
  | outsideLevel (what : String)
  /-- A second statement in one level. -/
  | secondStatement
  /-- A hint that is not part of a proof script. -/
  | strayHint
  /-- A statement whose name is taken. -/
  | nameTaken (name type theoremName : String)
  /-- What the checker said about a script. -/
  | fromChecker (severity : Severity) (text : String)
  /-- A lemma in the inventory that was never declared. -/
  | undeclaredLemma (name : String)
  /-- A statement that was never declared, so there is nothing to preview. -/
  | undeclaredStatement (theoremName : String)
deriving DecidableEq, Repr

namespace Remark

/-- How serious it is. -/
def severity : Remark → Severity
  | alreadyDocumented .. => .warning
  | documentedByDescription .. => .info
  | undocumented .. => .warning
  | outsideLevel _ => .error
  | secondStatement => .error
  | strayHint => .error
  | nameTaken .. => .warning
  | fromChecker severity _ => severity
  | undeclaredLemma _ => .warning
  | undeclaredStatement _ => .warning

/-- The wording. -/
def text : Remark → String
  | alreadyDocumented kind name =>
    kind.title ++ " '" ++ name ++ "' is already documented; keeping the first entry"
  | documentedByDescription kind name =>
    "Missing " ++ kind.label ++ " documentation for '" ++ name
      ++ "'; using the provided description as its content"
  | undocumented kind name =>
    "Missing " ++ kind.label ++ " documentation for '" ++ name
      ++ "'. Add a doc entry for it before it is used"
  | outsideLevel what => what ++ " must appear inside a level; ignoring it"
  | secondStatement => "Level already has a statement; ignoring the second one"
  | strayHint => "Hints must be written inside a statement's proof script; ignoring it"
  | nameTaken name type theoremName =>
    "'" ++ name ++ "' is already defined with type `" ++ type
      ++ "`; elaborating this statement as '" ++ theoremName ++ "' instead"
  | fromChecker _ text => text
  | undeclaredLemma name => "Could not find a declaration for lemma '" ++ name ++ "'"
  | undeclaredStatement theoremName =>
    "Could not find statement '" ++ theoremName ++ "' to preview"

/-- The remark as a message about a place. -/
def message (r : Remark) (stage : Stage) (location : Location) : Message :=
  ⟨r.severity, r.text, location, stage⟩

end Remark
end Curriculum
