import Curriculum.CommandLine
import Curriculum.Value.Json
import Curriculum.Value.JsonText
import Std.Time

/-!
# The program

Reads the options, the variables and the document, runs the compiler, and
writes the three files of a run: the game, the messages and the report. The
document is a file in JSON.
-/

namespace Curriculum.Program

open CommandLine

/-- What the arguments of the program say. -/
structure Arguments where
  input : Option String
  outputDir : String
  options : Options

/-- No arguments. -/
def Arguments.none : Arguments := ⟨.none, "data/compiled", .none⟩

/-- Reads arguments, each given as one word or, with its value after it, as two. -/
def readArguments (a : Arguments) : List String → Except String Arguments
  | [] => .ok a
  | "--strict" :: rest => readArguments { a with options := { a.options with strict := true } } rest
  | "--input" :: v :: rest => readArguments { a with input := some v } rest
  | "--output-dir" :: v :: rest => readArguments { a with outputDir := v } rest
  | "--game-name" :: v :: rest =>
    readArguments { a with options := { a.options with gameName := some v } } rest
  | "--log-level" :: v :: rest =>
    readArguments { a with options := { a.options with logLevel := some v } } rest
  | other :: _ => .error other

/-- Splits an argument of the form `--name=value` into two words. -/
def splitArgument (s : String) : List String :=
  let cs := s.toList
  match cs.dropWhile (· ≠ '=') with
  | '=' :: value =>
    if "--".toList.isPrefixOf cs then
      [String.ofList (cs.takeWhile (· ≠ '=')), String.ofList value]
    else [s]
  | _ => [s]

/-- The text of a file, if it can be read. -/
def readFile? (path : String) : IO (Option String) := do
  try return some (← IO.FS.readFile path) catch _ => return none

/-- The document in a text; a text of blanks only holds nothing. -/
def readDocument (text : String) : Option Value :=
  if (Text.strip text).isEmpty then some .null else Value.Json.parse? text

/-- The variables of the process that are looked at. -/
def processVariables : IO Settings.Variables := do
  let mut vars : Settings.Variables := .empty
  for name in ["LOG_LEVEL", "DEFAULT_GAME", "NOT_FOUND_TEXT", "STRICT"] do
    if let some s ← IO.getEnv (Settings.variableStem ++ name) then
      vars := vars.insert (Settings.variableStem ++ name) s
  return vars

/-- How the files are laid out. -/
def layout : Value.JsonLayout := ⟨false, some 2⟩

/-- Writes what a run produced. -/
def writeArtefacts (dir : String) (a : Artefacts) : IO Unit := do
  let now ← Std.Time.PlainDateTime.now
  let time := now.format "uuuu-MM-dd'T'HH:mm:ss.SSSSSS"
  IO.FS.createDirAll dir
  IO.FS.writeFile (dir ++ "/game.json") ((a.bundle.stamped time).write.toJson layout)
  IO.FS.writeFile (dir ++ "/diagnostics.json")
    ((Form.ofList Message.write a.messages).toJson layout)
  IO.FS.writeFile (dir ++ "/game_report.md") (a.report time)

/-- Runs the compiler on a file. -/
def run (a : Arguments) (input : String) : IO UInt32 := do
  let file := (← readFile? ".env").map Settings.variablesOfFile
  let vars := Settings.mergeVariables (← processVariables) (file.getD .empty)
  match (← readFile? input).map readDocument with
  | some none =>
    IO.eprintln ("Not a JSON document: " ++ input)
    return 1
  | document =>
    match CommandLine.run vars a.options document.join with
    | .error e =>
      IO.eprintln e.message
      return 1
    | .ok result =>
      match result with
      | .written _ artefacts => writeArtefacts a.outputDir artefacts
      | .stopped reason => IO.eprintln reason
      return UInt32.ofNat result.status

end Curriculum.Program

/-- Compiles the document that the arguments name. -/
def main (args : List String) : IO UInt32 := do
  match Curriculum.Program.readArguments .none (args.flatMap Curriculum.Program.splitArgument) with
  | .error other =>
    IO.eprintln ("Unrecognized argument: " ++ other)
    return 2
  | .ok a =>
    match a.input with
    | none =>
      IO.eprintln "The option --input is required"
      return 2
    | some input => Curriculum.Program.run a input
