import Curriculum.Inventory
import Curriculum.Value

/-!
# Failures

The ways in which applying a directive or compiling a game can fail. A failure
is a cause; its wording is in `Failure.message`. Failures that concern the
structure of the game are fatal in the ordinary sense: the run ends with them.
The others are mistakes in a single value.
-/

namespace Curriculum

/-- Why a step of a session failed. -/
inductive Failure where
  /-- Worlds wait for each other along these edges. -/
  | cyclicWorlds (cycle : List (String × String))
  /-- Worlds cannot be put in order. -/
  | unorderedWorlds
  /-- A path names a world that was never added. -/
  | undeclaredWorld (world : String)
  /-- A level before there is a world. -/
  | levelBeforeWorld (index : Int)
  /-- Something that belongs into a level, before there is a world. -/
  | partBeforeWorld (what : String)
  /-- A level number below one. -/
  | levelBelowOne (world : String) (index : Int)
  /-- Numbers that are missing among the levels of a world. -/
  | missingLevels (world : String) (missing : List Int)
  /-- A level without declarations for a kind. -/
  | missingKind (kind : Kind)
  /-- A name without characters. -/
  | emptyName
  /-- A value that is no directive. -/
  | notDirective (shape : String)
deriving DecidableEq, Repr

namespace Failure

/-- The worlds along a cycle. -/
def cyclePath : List (String × String) → String
  | [] => "?"
  | cycle@((first, _) :: _) => " -> ".intercalate (first :: cycle.map Prod.snd)

/-- Numbers in brackets. -/
def numberList (numbers : List Int) : String :=
  "[" ++ ", ".intercalate (numbers.map toString) ++ "]"

/-- How a kind is shown where it is missing. -/
def missingKindText : Kind → String
  | .tactics => "<InventoryKind.TACTIC: 'tactic'>"
  | .lemmas => "<InventoryKind.LEMMA: 'lemma'>"
  | .definitions => "<InventoryKind.DEFINITION: 'definition'>"

/-- The wording of a failure. -/
def message : Failure → String
  | cyclicWorlds cycle => "World graph contains a cycle: " ++ cyclePath cycle
  | unorderedWorlds => "Graph contains a cycle or graph changed during iteration"
  | undeclaredWorld world => "Path refers to undeclared world '" ++ world ++ "'"
  | levelBeforeWorld index =>
    "Level " ++ toString index ++ " appears before any world was declared"
  | partBeforeWorld what => what ++ " appears before any world was declared"
  | levelBelowOne world index =>
    "World '" ++ world ++ "': level index must be >= 1, got " ++ toString index
  | missingLevels world missing =>
    "World '" ++ world ++ "': levels must be numbered 1..n, missing " ++ numberList missing
  | missingKind kind => missingKindText kind
  | emptyName => "A name must have at least one character"
  | notDirective shape => "Unsupported unit: " ++ shape

/-- Whether a failure concerns the structure of the game. -/
def isStructural : Failure → Bool
  | cyclicWorlds _ | undeclaredWorld _ | levelBeforeWorld _ | partBeforeWorld _
  | levelBelowOne .. | missingLevels .. => true
  | unorderedWorlds | missingKind _ | emptyName | notDirective _ => false

end Failure

example : (Failure.cyclicWorlds [("A", "B"), ("B", "A")]).message
    = "World graph contains a cycle: A -> B -> A" := by decide

end Curriculum
