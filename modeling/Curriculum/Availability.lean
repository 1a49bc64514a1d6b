import Curriculum.Bundle
import Curriculum.Catalogue
import Curriculum.Checker
import Curriculum.Failure
import Curriculum.Text.CaseFold
import Curriculum.WorldGraph.Ancestors

/-!
# Availability

What every item of the catalogue is at every level: locked or open, new or
known, taken away or not. A learner enters a world with everything that the
worlds before it introduce, and each level adds what it introduces itself. A
level introduces the names that it declares new; a lemma is moreover introduced
by the level after the one that states it.

Compiling a game first makes sure that the worlds can be put in order and that
the levels of each world are numbered from one on; nothing is written before
that. Then the statements of the lemmas are looked up, availability is computed
kind by kind, and the statements of the levels are looked up for previews.
-/

namespace Curriculum

/-! ## What a level introduces -/

/-- The name that a level's statement adds to the inventory, if it has one. -/
def Level.earned (l : Level) : List String :=
  match l.statement with
  | some s => (s.name.filter (· ≠ "")).toList
  | none => []

/-- The declarations of a level for a kind; a kind that is missing declares nothing. -/
def Level.info (l : Level) (kind : Kind) : Info := (l.inventory.get? kind).getD .empty

/-- The names of a kind that a level's statement makes available to later levels. -/
def Level.earnedOf (l : Level) (kind : Kind) : List String :=
  if kind = .lemmas then l.earned else []

/-- The names of a kind that a world introduces, at any of its levels. -/
def World.introduces (w : World) (kind : Kind) : List String :=
  w.levels.values.flatMap fun l => (l.info kind).new.names ++ l.earnedOf kind

/-! ## Items at a level -/

/-- Computed items are listed by category, then by the name shown, both without regard to case, and
last by the name itself. -/
def ComputedItem.sortKey (i : ComputedItem) : String × String × String :=
  (Text.caseFold i.category, Text.caseFold i.displayName, i.name)

/-- Triples of texts in their dictionary order. -/
def tripleLe (a b : String × String × String) : Bool :=
  a.1 < b.1 || (a.1 == b.1 && (a.2.1 < b.2.1 || (a.2.1 == b.2.1 && a.2.2 ≤ b.2.2)))

/-- Sorts computed items. The key of an item is computed once. -/
def sortComputed (items : List ComputedItem) : List ComputedItem :=
  (sortBy (fun a b => tripleLe a.1 b.1) (items.map fun i => (i.sortKey, i))).map Prod.snd

theorem sortComputed_eq_sortBy (items : List ComputedItem) :
    sortComputed items = sortBy (fun a b => tripleLe a.sortKey b.sortKey) items := by
  rw [sortComputed, sortBy_map, List.map_map]
  exact List.map_id _

/-- An item at a level with the given declarations, where `unlocked` names what is open and `fresh`
what is new. -/
def Item.project (unlocked fresh : List String) (info : Info) (i : Item) : ComputedItem where
  name := i.name
  displayName := i.displayName
  category := i.category
  locked := i.name ∉ unlocked
  disabled := info.isDisabled i.name
  new := i.name ∈ fresh

/-- Goes through levels in order. `unlocked` names what is open before the first of them, and
`earned` what the level before it has earned. -/
def walkLevels (kind : Kind) (items : List Item) (unlocked earned : List String) :
    List Level → List (List ComputedItem)
  | [] => []
  | l :: rest =>
    let fresh := (l.info kind).new.names ++ earned
    let unlocked := fresh ++ unlocked
    sortComputed (items.map (Item.project unlocked fresh (l.info kind)))
      :: walkLevels kind items unlocked (l.earnedOf kind) rest

/-! ## Writing the results -/

/-- Writes what was computed for a kind. -/
def Level.setComputed (l : Level) (kind : Kind) (computed : List ComputedItem) : Level :=
  { l with inventory := l.inventory.modify kind fun info => { info with computed := computed } }

/-- Computes a kind at all levels of a world that is entered with some names open. -/
def World.compileKind (kind : Kind) (items : List Item) (entry : List String) (w : World) : World :=
  let results := w.numbers.zip (walkLevels kind items entry [] w.orderedLevels)
  { w with
    levels := w.levels.mapWithKey fun index l =>
      match results.lookup index with
      | some computed => l.setComputed kind computed
      | none => l }

namespace Game

/-- What is open on entering a world. -/
def entryOf (game : Game) (graph : WorldGraph) (kind : Kind) (world : String) : List String :=
  (graph.ancestors world).names.flatMap fun ancestor =>
    match game.worlds.get? ancestor with
    | some w => w.introduces kind
    | none => []

/-- Computes a kind at all levels of a game. -/
def compileKind (graph : WorldGraph) (catalogue : Catalogue) (game : Game) (kind : Kind) : Game :=
  { game with
    worlds := game.worlds.mapWithKey fun id w =>
      w.compileKind kind (catalogue.itemsOf kind) (game.entryOf graph kind id) }

/-- Whether every level declares something, if only nothing, for a kind. -/
def hasKind (game : Game) (kind : Kind) : Bool :=
  game.worlds.values.all fun w => w.levels.values.all fun l => (l.inventory.get? kind).isSome

/-- Computes all kinds, one after the other, up to one that some level lacks. -/
def compileKinds (graph : WorldGraph) (catalogue : Catalogue) :
    List Kind → Game → Game × Option Failure
  | [], game => (game, none)
  | kind :: kinds, game =>
    if game.hasKind kind then
      compileKinds graph catalogue kinds (game.compileKind graph catalogue kind)
    else (game, some (.missingKind kind))

end Game

/-! ## Declarations shown to the learner -/

/-- The declaration of a name as it is shown, or the text for names that are not declared. -/
def Declarations.shownOr (ds : Declarations) (notFound name : String) : String :=
  (ds.rendered? name).getD notFound

/-- Looks up the statement of a lemma. -/
def Item.withStatement (ds : Declarations) (notFound : String) (i : Item) : Item :=
  if i.kind = .lemmas then { i with statement := some (ds.shownOr notFound i.name) } else i

/-- A warning for every lemma that is not declared. -/
def undeclaredLemmas (ds : Declarations) (game : String) (catalogue : Catalogue) : List Message :=
  (catalogue.itemsOf .lemmas).filterMap fun i =>
    if (ds.rendered? i.name).isNone then
      some ((Remark.undeclaredLemma i.name).message .compiling ⟨some game, none, none⟩)
    else none

/-- A warning if the statement of a level is not declared. -/
def Level.previewWarning (ds : Declarations) (game world : String) (l : Level) : List Message :=
  match l.statement with
  | some s =>
    if (ds.rendered? s.theoremName).isNone then
      [(Remark.undeclaredStatement s.theoremName).message .compiling
        ⟨some game, some world, some l.index⟩]
    else []
  | none => []

/-- Looks up the preview of a level's statement. -/
def Level.withPreview (ds : Declarations) (notFound game world : String) (l : Level) : Level :=
  { l with
    statement := l.statement.map fun s =>
      { s with preview := some (ds.shownOr notFound s.theoremName) }
    diagnostics := l.diagnostics ++ l.previewWarning ds game world }

/-- Looks up all previews of a game. -/
def Game.withPreviews (ds : Declarations) (notFound : String) (game : Game) : Game :=
  { game with
    worlds := game.worlds.map fun w => w.mapLevels (·.withPreview ds notFound game.name w.id) }

/-- The warnings about all statements of a game that are not declared. -/
def Game.previewWarnings (ds : Declarations) (game : Game) : List Message :=
  game.worlds.values.flatMap fun w =>
    w.orderedLevels.flatMap fun l => l.previewWarning ds game.name w.id

/-! ## Conditions -/

/-- The numbers from one to `n`. -/
def numbersTo (n : Nat) : List Int := (List.range n).map fun (i : Nat) => (i : Int) + 1

/-- The numbers that are missing below the greatest number of a world. -/
def World.missingNumbers (w : World) : List Int :=
  (numbersTo (w.numbers.getLastD 0).toNat).filter (· ∉ w.numbers)

/-- Fails if the worlds or levels of a game cannot be put in order. -/
def Game.validate (game : Game) (graph : WorldGraph) : Except Failure Unit :=
  match graph.validate with
  | .error failure => .error failure
  | .ok () =>
    match graph.worlds.find? fun w => !game.worlds.contains w with
    | some world => .error (.undeclaredWorld world)
    | none =>
      match game.worlds.values.find? fun w => w.numbers ≠ numbersTo w.numbers.length with
      | some w => .error (.missingLevels w.id w.missingNumbers)
      | none => .ok ()

/-! ## Compiling -/

/-- The bundle of a game that has been compiled. -/
def Game.bundle (game : Game) (graph : WorldGraph) (catalogue : Catalogue) :
    Except Failure Bundle :=
  match graph.map? with
  | none => .error .unorderedWorlds
  | some worldMap =>
    let worlds := worldMap.nodes.filterMap game.worlds.get?
    .ok ⟨game.name, game.texts, worldMap, catalogue.items, worlds,
      (Totals.of worlds catalogue.items).members⟩

/-- What an attempt at compiling leaves behind. -/
structure Compilation where
  game : Game
  catalogue : Catalogue
  messages : List Message
  result : Except Failure Bundle

/-- Compiles a game. -/
def Game.compile (game : Game) (graph : WorldGraph) (catalogue : Catalogue) (ds : Declarations)
    (notFound : String) : Compilation :=
  match game.validate graph with
  | .error failure => ⟨game, catalogue, [], .error failure⟩
  | .ok () =>
    let messages := undeclaredLemmas ds game.name catalogue
    let catalogue := catalogue.mapItems (·.withStatement ds notFound)
    match Game.compileKinds graph catalogue Kind.all game with
    | (game, some failure) => ⟨game, catalogue, messages, .error failure⟩
    | (game, none) =>
      let messages := messages ++ game.previewWarnings ds
      let game := game.withPreviews ds notFound
      ⟨game, catalogue, messages, game.bundle graph catalogue⟩

end Curriculum
