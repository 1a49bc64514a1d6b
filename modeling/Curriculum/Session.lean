import Curriculum.Availability
import Curriculum.Directive
import Curriculum.Hints
import Curriculum.Naming
import Curriculum.Settings

/-!
# Sessions

A session applies directives to a game that is being built. It keeps a cursor,
the place that directives speak about, and a log of everything that was said to
the author; what was said about a level is kept with the level as well.

A step that fails still leaves a session behind, so an outcome is a session
together with a failure, if there was one. Compiling can be asked for at any
time and as often as one likes: it withdraws what an earlier compilation said,
and a bundle is kept only until the next directive that could change it.
-/

namespace Curriculum

/-- The place that directives speak about.

A place is a world or none, a level or none, and a layer (game, world or level) that says whose
texts are meant. A session starts at the game, and naming the game leads back there; adding a world
leads to the world, and a level is turned to only while there is a world, which stays. No other
assignments of world, level and layer arise. -/
inductive Cursor where
  /-- No world and no level; the layer is that of the game. -/
  | game
  /-- The world `id` and no level; the layer is that of the world. -/
  | world (id : String)
  /-- The world `world` and its level `index`; the layer is that of the level. -/
  | level (world : String) (index : Int)
deriving DecidableEq, Repr

namespace Cursor

/-- The world of the place, if it is in one. -/
def world? : Cursor → Option String
  | game => none
  | world id => some id
  | level id _ => some id

/-- The level of the place, if it is in one. -/
def level? : Cursor → Option Int
  | level _ index => some index
  | _ => none

end Cursor

/-- A game that is being built. -/
structure Session where
  settings : Settings
  declarations : Declarations
  game : Game
  graph : WorldGraph
  catalogue : Catalogue
  cursor : Cursor
  /-- Everything said so far, oldest first. -/
  messages : List Message
  /-- The compiled game, unless something may have changed since. -/
  bundle : Option Bundle

/-- What a step leaves behind. -/
structure Outcome where
  session : Session
  failure : Option Failure

namespace Session

/-- A session in which nothing has been done. -/
def start (settings : Settings) (declarations : Declarations) : Session where
  settings := settings
  declarations := declarations
  game := .fresh settings.defaultGame
  graph := .empty
  catalogue := .empty
  cursor := .game
  messages := []
  bundle := none

/-- Starts again. What has been declared stays declared. -/
def reset (s : Session) : Session := start s.settings s.declarations

/-- A step that did what it should. -/
def done (s : Session) : Outcome := ⟨s, none⟩

/-- A step that failed. -/
def failed (s : Session) (failure : Failure) : Outcome := ⟨s, some failure⟩

/-! ## The current place -/

/-- The world that the cursor is in. -/
def currentWorld (s : Session) : Option World := s.cursor.world?.bind s.game.worlds.get?

/-- The level that the cursor is at. -/
def currentLevel (s : Session) : Option Level :=
  s.currentWorld.bind fun w => s.cursor.level?.bind w.levels.get?

/-- The current place, for messages. -/
def location (s : Session) : Location := ⟨some s.game.name, s.cursor.world?, s.cursor.level?⟩

/-- Changes the level that the cursor is at. -/
def modifyCurrentLevel (s : Session) (f : Level → Level) : Session :=
  match s.cursor with
  | .level world index => { s with game := s.game.modifyLevel world index f }
  | _ => s

/-- Tells the author something about the current place. -/
def report (s : Session) (remark : Remark) : Session :=
  let message := remark.message .authoring s.location
  { s.modifyCurrentLevel fun l => { l with diagnostics := l.diagnostics ++ [message] } with
    messages := s.messages ++ [message] }

/-- Tells the author something, if there is something to tell. -/
def report? (s : Session) : Option Remark → Session
  | some remark => s.report remark
  | none => s

/-- Does something at the current level. Without a world this fails; in a world but outside of its
levels the author is told, and nothing else happens. -/
def atLevel (s : Session) (what : String) (act : Level → Outcome) : Outcome :=
  match s.currentWorld with
  | none => s.failed (.partBeforeWorld what)
  | some _ =>
    match s.currentLevel with
    | none => (s.report (.outsideLevel what)).done
    | some l => act l

/-! ## Structure -/

/-- Names the game and turns to it. -/
def setGame (s : Session) (name : String) : Session :=
  { s with game := { s.game with name := name }, cursor := .game }

/-- Adds a world unless it is there, and turns to it. -/
def addWorld (s : Session) (id : String) : Session :=
  { s with
    game :=
      if s.game.worlds.contains id then s.game
      else { s.game with worlds := s.game.worlds.insert id (.fresh id) }
    graph := s.graph.addWorld id
    cursor := .world id }

/-- Adds a path. -/
def addPath (s : Session) (source target : String) : Session :=
  { s with graph := s.graph.addEdge source target }

/-- Adds a level to the current world unless it is there, and turns to it. -/
def setLevelIndex (s : Session) (index : Int) : Outcome :=
  match s.cursor.world?, s.currentWorld with
  | some id, some w =>
    if index < 1 then s.failed (.levelBelowOne w.id index)
    else
      let game :=
        if w.levels.contains index then s.game
        else s.game.modifyWorld id fun w =>
          { w with levels := w.levels.insert index (.fresh w.id index) }
      { s with game := game, cursor := .level id index : Session }.done
  | _, _ => s.failed (.levelBeforeWorld index)

/-- Writes a text of the current game, world or level. -/
def setText (s : Session) (field : TextField) (text : String) : Session :=
  match s.cursor with
  | .game => { s with game := { s.game with texts := s.game.texts.set field text } }
  | .world id =>
    { s with game := s.game.modifyWorld id fun w => { w with texts := w.texts.set field text } }
  | .level .. => s.modifyCurrentLevel fun l => { l with texts := l.texts.set field text }

/-! ## Inventory -/

/-- Keeps a changed catalogue and passes on what there is to say about the change. -/
def keepCatalogue (s : Session) (change : Catalogue × Option Remark) : Session :=
  { s with catalogue := change.1 : Session }.report? change.2

/-- Documents an item. -/
def registerDoc (s : Session) (doc : Doc) : Session := s.keepCatalogue (s.catalogue.register doc)

/-- Makes sure that a name is in the catalogue. -/
def mention (s : Session) (kind : Kind) (name : NonEmptyText) (description : Option String) :
    Session :=
  s.keepCatalogue (s.catalogue.mention kind name description)

/-- Makes sure that names are in the catalogue, up to one that is empty. -/
def mentionAll (s : Session) (kind : Kind) : List String → Outcome
  | [] => s.done
  | name :: rest =>
    if h : name ≠ "" then (s.mention kind ⟨name, h⟩ none).mentionAll kind rest
    else s.failed .emptyName

/-- How a listing is called where it is out of place. -/
def listingText (listing : Listing) (kind : Kind) : String :=
  (Tag.ofListing listing).recordName ++ " " ++ kind.label

/-- Lists names at the current level, in place of those listed there before. -/
def declareInventory (s : Session) (listing : Listing) (kind : Kind) (names : List String) :
    Outcome :=
  s.atLevel (listingText listing kind) fun _ =>
    match s.mentionAll kind names with
    | ⟨s, some failure⟩ => s.failed failure
    | ⟨s, none⟩ =>
      (s.modifyCurrentLevel fun l =>
        { l with inventory := l.inventory.modify kind (·.setListing listing (.ofList names)) }).done

/-! ## Exercises -/

/-- The statement of a level as it is recorded. -/
def statementOf (s : Session) (l : Level) (e : Exercise) (resolution : NameResolution)
    (success : Bool) : Statement where
  name := e.name
  description := e.description
  signature := e.signature
  scope := [s.game.name, l.worldId]
  theoremName := resolution.theoremName
  success := success
  preview := none

/-- Checks a statement and records it at the current level, which has none yet. -/
def recordStatement (s : Session) (l : Level) (e : Exercise) : Session :=
  let resolution := resolveName s.declarations.get? e.name s.game.name l.worldId l.index
  let verdict := Checker.elaborate s.declarations resolution.theoremName e.signature e.script
  let statement := s.statementOf l e resolution verdict.success
  let s := s.report? resolution.remark
  let s := { s with declarations := verdict.declarations }
  let s := (plainOf verdict.diagnostics).foldl
    (fun s (severity, text) => s.report (.fromChecker severity text)) s
  let s := s.modifyCurrentLevel fun l =>
    { l with hints := hintsOf verdict.diagnostics, statement := some statement }
  match resolution.docName with
  | some name => s.mention .lemmas name e.description
  | none => s

/-- States the exercise of the current level. A level keeps its first statement. -/
def declareStatement (s : Session) (e : Exercise) : Outcome :=
  s.atLevel "Statement" fun l =>
    match l.statement with
    | some _ => (s.report .secondStatement).done
    | none => (s.recordStatement l e).done

/-! ## Compiling -/

/-- Withdraws what the last compilation said. -/
def withdraw (s : Session) : Session :=
  { s with
    messages := s.messages.filter (·.stage = .authoring)
    game := s.game.mapLevels fun l =>
      { l with diagnostics := l.diagnostics.filter (·.stage = .authoring) } }

/-- Compiles what there is so far. -/
def compile (s : Session) : Outcome :=
  let s := s.withdraw
  let c := s.game.compile s.graph s.catalogue s.declarations s.settings.notFoundText
  let s := { s with game := c.game, catalogue := c.catalogue }
  match c.result with
  | .error failure => s.failed failure
  | .ok bundle =>
    { s with messages := s.messages ++ c.messages, bundle := some bundle : Session }.done

/-- The bundle that is kept, or a new one. -/
def finish (s : Session) : Outcome := if s.bundle.isSome then s.done else s.compile

/-! ## Steps -/

/-- Applies a directive other than the one that compiles. -/
def author (s : Session) : Directive → Outcome
  | .setGame name => (s.setGame name.val).done
  | .addWorld id => (s.addWorld id.val).done
  | .addPath source target => (s.addPath source target).done
  | .setLevelIndex index => s.setLevelIndex index
  | .setText field text => (s.setText field text).done
  | .registerDoc doc => (s.registerDoc doc).done
  | .declareInventory listing kind names => s.declareInventory listing kind names
  | .declareStatement e => s.declareStatement e
  | .declareHint _ => (s.report .strayHint).done
  | .compile => s.done

/-- Applies a directive. Unless it compiles, the bundle that was kept is dropped first. -/
def process (s : Session) : Directive → Outcome
  | .compile => s.compile
  | d => { s with bundle := none : Session }.author d

/-- Applies directives up to one that fails. -/
def processAll (s : Session) : List Directive → Outcome
  | [] => s.done
  | d :: rest =>
    match s.process d with
    | ⟨s, none⟩ => s.processAll rest
    | outcome => outcome

/-- What a session can be asked to do. -/
inductive Command where
  /-- Apply a directive. -/
  | directive (d : Directive)
  /-- Apply a value that is no directive. -/
  | other (v : Value)
  | compile
  | reset

/-- Does what is asked. -/
def run (s : Session) : Command → Outcome
  | .directive d => s.process d
  | .other v => s.failed (.notDirective v.shape)
  | .compile => s.compile
  | .reset => s.reset.done

/-- How many messages of the log a command takes back. -/
def withdrawn (s : Session) : Command → Nat
  | .directive .compile | .compile => s.messages.countP (·.stage = .compiling)
  | .reset => s.messages.length
  | .directive _ | .other _ => 0

/-- The messages that a command adds to the log. -/
def added (s : Session) (c : Command) : List Message :=
  (s.run c).session.messages.drop (s.messages.length - s.withdrawn c)

end Session
end Curriculum
