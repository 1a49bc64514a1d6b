import Curriculum.Session

/-!
# Reports

A compiled game on a page: its totals, its worlds and levels with what they
open and introduce, and everything that was said about it. The same messages
decide the exit status.
-/

namespace Curriculum

/-- The status a run ends with: one if there are errors or, in a strict run, warnings. -/
def exitStatus (messages : List Message) (strict : Bool) : Nat :=
  if messages.any fun m => m.severity = .error || (strict && m.severity = .warning) then 1 else 0

namespace Report

/-- A total of a bundle. -/
def total (b : Bundle) (name : String) : String := ((b.facts.get? name).getD .null).plain

/-- A line that lists names, if there are any. -/
def nameLine (label : String) (names : List String) : List String :=
  if names.isEmpty then [] else ["  - " ++ label ++ ": " ++ ", ".intercalate names]

/-- What is open and what is new at a level, for one kind. -/
def kindLines (l : Level) (kind : Kind) : List String :=
  let computed := (l.info kind).computed
  nameLine (kind.title ++ "s") ((computed.filter (!·.locked)).map (·.name))
    ++ nameLine ("New " ++ kind.label ++ "s") ((computed.filter (·.new)).map (·.name))

/-- A level. -/
def levelLines (l : Level) : List String :=
  let theoremName := (l.statement.map (·.theoremName)).getD "(no statement)"
  ["- **Level " ++ toString l.index ++ "**: " ++ l.texts.title.getD "",
    "  - Theorem: `" ++ theoremName ++ "`"]
  ++ Kind.all.flatMap (kindLines l)
  ++ ["  - Hints: " ++ toString l.hints.length]

/-- A world. -/
def worldLines (w : World) : List String :=
  ["### " ++ textOr w.texts.title w.id, ""] ++ w.orderedLevels.flatMap levelLines ++ [""]

/-- The messages, if there are any. -/
def messageLines (messages : List Message) : List String :=
  if messages.isEmpty then []
  else ["## Diagnostics", ""] ++ messages.map (fun m => "- " ++ m.line) ++ [""]

/-- The report on a bundle that was compiled at a given time. -/
def text (b : Bundle) (messages : List Message) (time : String) : String :=
  "\n".intercalate (
    ["# " ++ textOr b.texts.title b.name, "", "Compiled: " ++ time, "", "## Summary", "",
      "- **Worlds**: " ++ total b "total_worlds",
      "- **Levels**: " ++ total b "total_levels",
      "- **Inventory items**: " ++ total b "total_items",
      "- **Hints**: " ++ total b "total_hints",
      "- **Paths**: " ++ toString b.worldMap.edges.length, "", "## Worlds", ""]
    ++ b.worlds.flatMap worldLines ++ messageLines messages)

end Report
end Curriculum
