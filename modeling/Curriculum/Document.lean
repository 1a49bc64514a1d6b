import Curriculum.Form.Directive
import Curriculum.Checker

/-!
# Documents

An authored document is a mapping with two members, both of which may be
missing: the declarations that exist before the game is built, and the list of
directives. Every directive is read on its own, so that a report names all that
could not be read. For those that are marked it says what is wrong with the
variant they are marked as.
-/

namespace Curriculum

/-- A document that has been read. -/
structure Document where
  declarations : Declarations
  directives : List Directive
deriving DecidableEq

/-- A directive that could not be read: its position, and what is wrong with it. -/
structure UnreadDirective where
  position : Nat
  issues : List Schema.Issue
deriving DecidableEq

/-- Why a document could not be read. -/
inductive DocumentError where
  /-- There is no document. -/
  | missing (name : String)
  /-- The document is no mapping but a value of this shape. -/
  | notMapping (shape : String)
  /-- The directives are no list. -/
  | directivesNotList
  | unreadDirectives (unread : List UnreadDirective)
  /-- The declarations are no mapping but a value of this shape. -/
  | declarationsNotMapping (shape : String)
deriving DecidableEq

/-- The wording of the errors that have one. -/
def DocumentError.message : DocumentError → String
  | missing name => "Unit file not found: " ++ name
  | notMapping shape => "'" ++ shape ++ "' object has no attribute 'get'"
  | declarationsNotMapping shape => "'" ++ shape ++ "' object has no attribute 'items'"
  | directivesNotList => "The directives are not a list"
  | unreadDirectives unread =>
    ", ".intercalate (unread.map fun u => "Cannot read directive " ++ toString u.position)

namespace Document

/-- The variant that a value is marked as. -/
def markOf : Value → Option Tag
  | .mapping ms =>
    match Members.get? ms "type" with
    | some (.text label) => Tag.ofLabel? label
    | _ => none
  | _ => none

/-- What is wrong with a value that is no directive, seen as the variant that it is marked as. -/
def issuesOf (v : Value) : List Schema.Issue :=
  match markOf v with
  | some tag => (Directive.readAs tag v).issues
  | none => []

/-- Reads values as directives, the first of them at a position. -/
def readDirectives (position : Nat) : List Value → List Directive × List UnreadDirective
  | [] => ([], [])
  | v :: rest =>
    let (directives, unread) := readDirectives (position + 1) rest
    match Directive.read v with
    | .accepted d _ => (d :: directives, unread)
    | .rejected _ => (directives, ⟨position, issuesOf v⟩ :: unread)

/-- Reads a list of directives. -/
def directivesOf (v : Value) : Except DocumentError (List Directive) :=
  if v.isAbsent then .ok []
  else match v with
    | .list vs =>
      match readDirectives 0 vs with
      | (directives, []) => .ok directives
      | (_, unread) => .error (.unreadDirectives unread)
    | _ => .error .directivesNotList

/-- Reads declarations. Names and types that are not texts are displayed as texts. -/
def declarationsOf (v : Value) : Except DocumentError Declarations :=
  if v.isAbsent then .ok .empty
  else match v with
    | .mapping ms => .ok (.ofList (ms.map fun (name, type) => (name.plain, type.plain)))
    | _ => .error (.declarationsNotMapping v.shape)

/-- Reads a document. -/
def read (v : Value) : Except DocumentError Document :=
  match v with
  | .mapping ms => do
    let directives ← directivesOf ((Members.get? ms "units").getD .null)
    let declarations ← declarationsOf ((Members.get? ms "environment").getD .null)
    return ⟨declarations, directives⟩
  | _ => .error (.notMapping v.shape)

/-- Reads the document in a file, if the file is there. An empty file holds an empty document. -/
def load (name : String) : Option Value → Except DocumentError Document
  | none => .error (.missing name)
  | some v => read (if v.isAbsent then .mapping [] else v)

end Document
end Curriculum
