import Curriculum.Schema.Reader
import Curriculum.Form.Basic
import Curriculum.Text.UpperCase

/-!
# Settings

What can be set for a run: how much is logged, the name of a game that does not
name itself, the text shown for a declaration that was not found, and whether
warnings count as failures. Settings are read from a record or from variables;
variables come from the environment of the process and from a file that only
fills in what the environment leaves open.
-/

namespace Curriculum

/-- How much is logged. -/
inductive LogLevel where
  | debug
  | info
  | warning
  | error
  | critical
deriving DecidableEq, Repr

namespace LogLevel

/-- All levels, the most talkative first. -/
def all : List LogLevel := [debug, info, warning, error, critical]

/-- The name of a level. -/
def label : LogLevel → String
  | debug => "DEBUG"
  | info => "INFO"
  | warning => "WARNING"
  | error => "ERROR"
  | critical => "CRITICAL"

/-- The level with a name in any case. If there is none, the name in capitals is handed back. -/
def ofText (s : String) : Except String LogLevel :=
  let name := Text.upperCase s
  match all.find? (·.label == name) with
  | some level => .ok level
  | none => .error name

end LogLevel

/-- The settings of a run. -/
structure Settings where
  logLevel : LogLevel
  defaultGame : String
  notFoundText : String
  strict : Bool
deriving DecidableEq, Repr

namespace Settings

open Schema Form

/-- The settings where nothing is set. -/
def standard : Settings := ⟨.info, "MyGame", "<statement not found>", false⟩

/-- Names of log levels. -/
def readLogLevel : Reader LogLevel := fun v =>
  (Reader.text v).refine fun s =>
    (LogLevel.ofText s).mapError fun name => .refused ("Unknown log level: " ++ name)

/-- Every setting may be left out. -/
def read : Reader Settings := Reader.record fun ms =>
  Settings.mk
    <$> defaulted "log_level" readLogLevel standard.logLevel ms
    <*> defaulted "default_game" Reader.text standard.defaultGame ms
    <*> defaulted "not_found_text" Reader.text standard.notFoundText ms
    <*> defaulted "strict" Reader.bool standard.strict ms

/-- The record of the settings. -/
def write (s : Settings) : Value := record [
  ("log_level", .text s.logLevel.label), ("default_game", .text s.defaultGame),
  ("not_found_text", .text s.notFoundText), ("strict", .bool s.strict)]

/-! ## Variables -/

/-- Variables with their values. -/
abbrev Variables := OrderedMap String String

/-- What all variables that are looked at start with. -/
def variableStem : String := "GAMECOMPILER_"

/-- The texts by which a variable switches something on. -/
def switchedOn (s : String) : Bool := ["1", "true", "yes"].contains s

/-- The settings that variables ask for. -/
def ofVariables (vars : Variables) : Checked Settings :=
  let get (name : String) : Option String := vars.get? (variableStem ++ name)
  let member (name key : String) : List (String × Value) :=
    ((get key).map fun s => (name, Value.text s)).toList
  read (record (member "log_level" "LOG_LEVEL" ++ member "default_game" "DEFAULT_GAME"
    ++ member "not_found_text" "NOT_FOUND_TEXT"
    ++ [("strict", .bool ((get "STRICT").any switchedOn))]))

/-! ## Files of variables -/

/-- What a file says of variables: a value, or that the variable is not set. -/
abbrev FileVariables := OrderedMap String (Option String)

/-- The part of a line before its comment, which starts at a number sign with a blank before it. -/
def withoutComment (afterBlank : Bool) : List Char → List Char
  | [] => []
  | c :: rest =>
    if c = '#' ∧ afterBlank then [] else c :: withoutComment (Text.isBlank c) rest

/-- The value written behind an equals sign, without its comment and the blanks around it. -/
def writtenValue (cs : List Char) : String :=
  Text.strip (String.ofList (withoutComment false cs))

/-- A line without the word that hands its variable on to other programs. -/
def withoutExport (line : List Char) : List Char :=
  match line with
  | 'e' :: 'x' :: 'p' :: 'o' :: 'r' :: 't' :: c :: rest =>
    if Text.isBlank c then rest.dropWhile Text.isBlank else line
  | _ => line

/-- The characters of a variable's name. -/
def inName (c : Char) : Bool := c ≠ '=' && c ≠ '#' && !Text.isBlank c

/-- What a line says of a variable. After the name comes an equals sign with a value, or nothing but
a comment; all other lines say nothing. -/
def assignment? (line : List Char) : Option (String × Option String) :=
  let line := withoutExport (line.dropWhile Text.isBlank)
  let name := line.takeWhile inName
  if name.isEmpty then none
  else match (line.dropWhile inName).dropWhile Text.isBlank with
    | '=' :: value => some (String.ofList name, some (writtenValue value))
    | [] | '#' :: _ => some (String.ofList name, none)
    | _ => none

/-- The lines of a text. A line feed and a carriage return end a line each. -/
def lines (cs : List Char) : List (List Char) :=
  match cs with
  | [] => [[]]
  | c :: rest =>
    match lines rest with
    | [] => [[c]]
    | line :: more =>
      if c = '\n' ∨ c = '\r' then [] :: line :: more else (c :: line) :: more

/-- A text without a mark of its encoding in front. -/
def withoutMark : List Char → List Char
  | '\ufeff' :: rest => rest
  | cs => cs

/-- What a file says of variables; the last line about a variable counts. -/
def variablesOfFile (text : String) : FileVariables :=
  OrderedMap.ofList ((lines (withoutMark text.toList)).filterMap assignment?)

/-- The variables of a process, with those of a file where the process has none. -/
def mergeVariables (process : Variables) (file : FileVariables) : Variables :=
  file.entries.foldl (fun vs (name, value) =>
    match value with
    | some s => if vs.contains name then vs else vs.insert name s
    | none => vs) process

example : assignment? " A = b #c ".toList = some ("A", some "b") := by decide +kernel
example : assignment? "A= # c".toList = some ("A", some "") := by decide +kernel
example : assignment? "export A # c".toList = some ("A", none) := by decide +kernel
example : assignment? "A b=c".toList = none ∧ assignment? "# A=b".toList = none := by decide +kernel

end Settings
end Curriculum
