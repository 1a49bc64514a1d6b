import Curriculum.Game

/-!
# Directives

An authored game is a list of directives. Most of them speak about the current
game, world or level, so their order matters. A directive can only hold what
its form admits: names of games and worlds are identifiers, documentation has a
name, a statement claims something.
-/

namespace Curriculum

/-- One directive of an author. -/
inductive Directive where
  /-- Names the game and turns to it. -/
  | setGame (name : Identifier)
  /-- Adds a world, or turns to one that is there. -/
  | addWorld (id : Identifier)
  /-- A path: the first world is to be played before the second. -/
  | addPath (source target : String)
  /-- Adds a level to the current world, or turns to one that is there. -/
  | setLevelIndex (index : Int)
  /-- Writes a text of the current game, world or level. -/
  | setText (field : TextField) (text : String)
  /-- Documents an item of the inventory. -/
  | registerDoc (doc : Doc)
  /-- Lists names at the current level. -/
  | declareInventory (listing : Listing) (kind : Kind) (names : List String)
  /-- States the exercise of the current level. -/
  | declareStatement (exercise : Exercise)
  /-- A hint outside of any script. -/
  | declareHint (step : HintStep)
  /-- Compiles what there is so far. -/
  | compile
deriving DecidableEq

/-- The variants of directives, as their authors tell them apart. -/
inductive Tag where
  | setGame
  | addWorld
  | addPath
  | setLevelIndex
  | setTitle
  | setIntroduction
  | setConclusion
  | registerDoc
  | declareNew
  | declareDisabled
  | declareOnly
  | declareStatement
  | declareHint
  | compile
deriving DecidableEq, Repr

namespace Tag

/-- All variants, in the order in which they are tried. -/
def all : List Tag :=
  [setGame, addWorld, addPath, setLevelIndex, setTitle, setIntroduction, setConclusion,
    registerDoc, declareNew, declareDisabled, declareOnly, declareStatement, declareHint, compile]

/-- The word that marks a variant. -/
def label : Tag → String
  | setGame => "set_game"
  | addWorld => "add_world"
  | addPath => "add_path"
  | setLevelIndex => "set_level_index"
  | setTitle => "set_title"
  | setIntroduction => "set_introduction"
  | setConclusion => "set_conclusion"
  | registerDoc => "register_doc"
  | declareNew => "declare_new"
  | declareDisabled => "declare_disabled"
  | declareOnly => "declare_only"
  | declareStatement => "declare_statement"
  | declareHint => "declare_hint"
  | compile => "run_availability_compiler"

/-- The name of the record that holds a variant. -/
def recordName : Tag → String
  | setGame => "SetGame"
  | addWorld => "AddWorld"
  | addPath => "AddPath"
  | setLevelIndex => "SetLevelIndex"
  | setTitle => "SetTitle"
  | setIntroduction => "SetIntroduction"
  | setConclusion => "SetConclusion"
  | registerDoc => "RegisterDoc"
  | declareNew => "DeclareNew"
  | declareDisabled => "DeclareDisabled"
  | declareOnly => "DeclareOnly"
  | declareStatement => "DeclareStatement"
  | declareHint => "DeclareHint"
  | compile => "RunAvailabilityCompiler"

/-- The variant that a word marks. -/
def ofLabel? (s : String) : Option Tag := all.find? (·.label == s)

theorem mem_all (t : Tag) : t ∈ all := by cases t <;> simp [all]

theorem ofLabel?_label (t : Tag) : ofLabel? t.label = some t := by cases t <;> rfl

/-- The variant that writes one of the texts. -/
def ofTextField : TextField → Tag
  | .title => setTitle
  | .introduction => setIntroduction
  | .conclusion => setConclusion

/-- The variant that fills one of the listings. -/
def ofListing : Listing → Tag
  | .new => declareNew
  | .disabled => declareDisabled
  | .only => declareOnly

end Tag

/-- The variant of a directive. -/
def Directive.tag : Directive → Tag
  | setGame _ => .setGame
  | addWorld _ => .addWorld
  | addPath .. => .addPath
  | setLevelIndex _ => .setLevelIndex
  | setText field _ => .ofTextField field
  | registerDoc _ => .registerDoc
  | declareInventory listing .. => .ofListing listing
  | declareStatement _ => .declareStatement
  | declareHint _ => .declareHint
  | compile => .compile

end Curriculum
