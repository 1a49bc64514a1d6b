import Curriculum.Proofs.Session.Availability
import Curriculum.Proofs.Session.Refusal
import Curriculum.Proofs.Session.Restart

/-!
# What does not depend on declarations

What is declared beforehand decides under which names statements are declared,
what is said about them, and what is shown of their declarations, and nothing
else. `nameless` is a session without all this. Two sessions that are the same
once they are nameless stay so, whatever is done to both of them, and fail at
the same steps for the same reasons: there is one such statement for each
operation, from `report_nameless` to `compile_nameless`. The two places where
declarations are read are `recordStatement_nameless`, where a name is looked for,
and `compile_nameless`, where declarations are looked up to be shown.

Main statement: `independent_of_declarations`, for two runs of the same commands
from any two lists of declarations.
-/

namespace Curriculum

/-- A statement without the name it is declared under and without its preview. -/
def Statement.nameless (st : Statement) : Statement :=
  { st with theoremName := "", preview := none }

/-- A level without the name of its statement and without what is said about it. -/
def Level.nameless (l : Level) : Level :=
  { l with statement := l.statement.map Statement.nameless, diagnostics := [] }

/-- A bundle without names and previews of statements and without declarations of lemmas. -/
def Bundle.nameless (b : Bundle) : Bundle :=
  { b with
    inventory := b.inventory.map Item.cleared
    worlds := b.worlds.map (·.mapLevels Level.nameless) }

theorem Level.nameless_setStatement (l : Level) (hints : List Hint) (st : Statement) :
    { l with hints := hints, statement := some st : Level }.nameless
      = { l.nameless with hints := hints, statement := some st.nameless } := rfl

/-! ## What is computed -/

theorem keepsListings_nameless : KeepsListings Level.nameless where
  info _ _ := rfl
  earned l kind := by
    simp only [Level.earnedOf, Level.earned, Level.nameless]
    cases l.statement <;> rfl

/-- What is computed does not depend on what has been looked up for items. -/
theorem walkLevels_map_items {f : Item → Item}
    (hf : ∀ i, ∃ statement, f i = { i with statement := statement }) (kind : Kind)
    (items : List Item) (unlocked earned : List String) (levels : List Level) :
    walkLevels kind (items.map f) unlocked earned levels
      = walkLevels kind items unlocked earned levels := by
  have hproject : ∀ unlocked fresh info i,
      Item.project unlocked fresh info (f i) = Item.project unlocked fresh info i := by
    intro unlocked fresh info i
    obtain ⟨statement, h⟩ := hf i
    rw [h]
    rfl
  induction levels generalizing unlocked earned with
  | nil => rfl
  | cons l rest ih =>
    simp only [walkLevels, List.map_map, Function.comp_def, hproject, ih]

theorem Item.cleared_eq (i : Item) :
    ∃ statement, i.cleared = { i with statement := statement } := by
  unfold cleared
  split
  · exact ⟨none, rfl⟩
  · exact ⟨i.statement, rfl⟩

namespace Game

theorem computedAt_mapItems {f : Item → Item}
    (hf : ∀ i, ∃ statement, f i = { i with statement := statement }) (game : Game)
    (graph : WorldGraph) (catalogue : Catalogue) :
    game.computedAt graph (catalogue.mapItems f) = game.computedAt graph catalogue := by
  funext world index kind
  simp only [computedAt, World.computedAt, Catalogue.itemsOf_mapItems, walkLevels_map_items hf]

/-- What a compiled game has, apart from names and previews, does not depend on declarations. -/
theorem nameless_compiled (game : Game) (graph : WorldGraph) (catalogue : Catalogue)
    (ds : Declarations) (notFound : String) :
    (game.compiled graph (catalogue.mapItems (·.withStatement ds notFound)) ds notFound).mapLevels
        Level.nameless
      = (game.mapLevels Level.nameless).mapLevelsAt fun world index =>
          Level.setComputeds ((game.mapLevels Level.nameless).computedAt graph catalogue.cleared
            world index) Kind.all := by
  have hpreview : ∀ (name id : String) (l : Level),
      (l.withPreview ds notFound name id).nameless = l.nameless := by
    intro name id l
    simp only [Level.nameless, Level.withPreview, Option.map_map]
    rfl
  rw [compiled, mapLevels_withPreviews hpreview, Catalogue.cleared,
    computedAt_mapLevels keepsListings_nameless, computedAt_mapItems Item.cleared_eq,
    computedAt_mapItems (Item.withStatement_eq ds notFound), mapLevels_eq_mapLevelsAt,
    mapLevels_eq_mapLevelsAt, mapLevelsAt_mapLevelsAt, mapLevelsAt_mapLevelsAt]
  rfl

/-- The totals of a bundle do not depend on declarations. -/
theorem totals_nameless (worlds : List World) (items : List Item) :
    Totals.of (worlds.map (·.mapLevels Level.nameless)) (items.map Item.cleared)
      = Totals.of worlds items := by
  have hlevels : (worlds.map (·.mapLevels Level.nameless)).flatMap (·.levels.values)
      = (worlds.flatMap (·.levels.values)).map Level.nameless := by
    simp only [List.flatMap_map, World.mapLevels, OrderedMap.values_map, List.map_flatMap]
  simp only [Totals.of, hlevels, List.length_map, List.foldl_map]
  rfl

/-- Apart from names, previews and declarations, a bundle is the bundle of a nameless game. -/
theorem nameless_bundle {game : Game} {graph : WorldGraph} {catalogue : Catalogue} {bundle : Bundle}
    (h : game.bundle graph catalogue = .ok bundle) :
    (game.mapLevels Level.nameless).bundle graph catalogue.cleared = .ok bundle.nameless := by
  unfold Game.bundle at h ⊢
  split at h
  · exact absurd h (by simp)
  · next worldMap hmap =>
    obtain rfl := Except.ok.inj h
    have hworlds : worldMap.nodes.filterMap (game.mapLevels Level.nameless).worlds.get?
        = (worldMap.nodes.filterMap game.worlds.get?).map (·.mapLevels Level.nameless) := by
      rw [List.map_filterMap]
      exact List.filterMap_congr fun world _ => game.get?_worlds_mapLevels Level.nameless world
    have hitems : catalogue.cleared.items = catalogue.items.map Item.cleared :=
      OrderedMap.values_map Item.cleared catalogue.entries
    simp only [hworlds, hitems, totals_nameless]
    rfl

end Game

namespace Session

/-- What is seen of a session without names of statements, messages and declarations. -/
def namelessView : View where
  level := Level.nameless
  declarations _ := .empty
  messages _ := []
  bundle b := b.map Bundle.nameless
  level_fresh _ _ := rfl
  level_texts _ _ _ := rfl

/-- A session without names of statements, messages and declarations. -/
def nameless (s : Session) : Session := s.viewed namelessView

end Session

/-- An outcome without names of statements, messages and declarations. -/
def Outcome.nameless (o : Outcome) : Outcome := o.viewed Session.namelessView

namespace Session

variable {s t : Session}

/-! ## The current place -/

theorem modifyCurrentLevel_nameless {f f' : Level → Level}
    (h : ∀ l, (f l).nameless = f' l.nameless) (s : Session) :
    (s.modifyCurrentLevel f).nameless = s.nameless.modifyCurrentLevel f' :=
  modifyCurrentLevel_viewed namelessView h s

/-- Whatever is said, it is not seen. -/
theorem report_nameless (s : Session) (r : Remark) : (s.report r).nameless = s.nameless := by
  calc (s.report r).nameless
      = (s.modifyCurrentLevel (·.said (r.message .authoring s.location))).nameless := rfl
    _ = s.nameless := modifyCurrentLevel_viewed_of_eq namelessView
        (f := (·.said (r.message .authoring s.location))) (fun _ => rfl) s

/-- So it does not matter what is said. -/
theorem report_nameless_congr (h : s.nameless = t.nameless) (r r' : Remark) :
    (s.report r).nameless = (t.report r').nameless :=
  (s.report_nameless r).trans (h.trans (t.report_nameless r').symm)

theorem report?_nameless (s : Session) (r : Option Remark) : (s.report? r).nameless = s.nameless :=
  report?_keeps (F := nameless) report_nameless s r

theorem reports_nameless (s : Session) (l : List (Severity × String)) :
    (s.reports l).nameless = s.nameless := reports_keeps (F := nameless) report_nameless s l

/-- What is done at the current level of two sessions that are the same without names. -/
theorem atLevel_nameless (h : s.nameless = t.nameless) (what : String) {act act' : Level → Outcome}
    (hact : ∀ l l', l.nameless = l'.nameless → (act l).nameless = (act' l').nameless) :
    (s.atLevel what act).nameless = (t.atLevel what act').nameless := by
  have hworld : s.currentWorld.map (·.mapLevels Level.nameless)
      = t.currentWorld.map (·.mapLevels Level.nameless) := by
    have heq := congrArg currentWorld h
    rwa [nameless, nameless, currentWorld_viewed, currentWorld_viewed] at heq
  have hlevel : s.currentLevel.map Level.nameless = t.currentLevel.map Level.nameless := by
    have heq := congrArg currentLevel h
    rwa [nameless, nameless, currentLevel_viewed, currentLevel_viewed] at heq
  unfold atLevel
  cases hw : s.currentWorld with
  | none =>
    rw [hw, Option.map_none, eq_comm, Option.map_eq_none_iff] at hworld
    rw [hworld]
    exact congrArg (Outcome.mk · _) h
  | some w =>
    rw [hw, Option.map_some] at hworld
    obtain ⟨w', hw', -⟩ := Option.map_eq_some_iff.1 hworld.symm
    rw [hw']
    cases hl : s.currentLevel with
    | none =>
      rw [hl, Option.map_none, eq_comm, Option.map_eq_none_iff] at hlevel
      rw [hlevel]
      exact congrArg (Outcome.mk · _) (report_nameless_congr h _ _)
    | some l =>
      rw [hl, Option.map_some] at hlevel
      obtain ⟨l', hl', heq⟩ := Option.map_eq_some_iff.1 hlevel.symm
      rw [hl']
      exact hact l l' heq.symm

/-! ## Inventory -/

theorem keepCatalogue_nameless (s : Session) (change : Catalogue × Option Remark) :
    (s.keepCatalogue change).nameless = { s.nameless with catalogue := change.1.cleared } := by
  rw [keepCatalogue, report?_nameless]
  rfl

/-- A change of the catalogue that does not depend on declarations of lemmas does the same. -/
theorem keepCatalogue_nameless_congr (h : s.nameless = t.nameless)
    (change : Catalogue → Catalogue × Option Remark)
    (hchange : ∀ c, (change c.cleared).1 = (change c).1.cleared) :
    (s.keepCatalogue (change s.catalogue)).nameless
      = (t.keepCatalogue (change t.catalogue)).nameless := by
  have hcatalogue : s.catalogue.cleared = t.catalogue.cleared := (congrArg Session.catalogue h :)
  rw [keepCatalogue_nameless, keepCatalogue_nameless, ← hchange, ← hchange, h, hcatalogue]

theorem registerDoc_nameless (h : s.nameless = t.nameless) (doc : Doc) :
    (s.registerDoc doc).nameless = (t.registerDoc doc).nameless :=
  keepCatalogue_nameless_congr h (·.register doc) fun c =>
    congrArg Prod.fst (c.register_cleared doc)

theorem mention_nameless (h : s.nameless = t.nameless) (kind : Kind) (name : NonEmptyText)
    (description : Option String) :
    (s.mention kind name description).nameless = (t.mention kind name description).nameless :=
  keepCatalogue_nameless_congr h (·.mention kind name description) fun c =>
    congrArg Prod.fst (c.mention_cleared kind name description)

theorem mentionAll_nameless (h : s.nameless = t.nameless) (kind : Kind) (names : List String) :
    (s.mentionAll kind names).nameless = (t.mentionAll kind names).nameless := by
  induction names generalizing s t with
  | nil => exact congrArg (Outcome.mk · _) h
  | cons name rest ih =>
    unfold mentionAll
    split
    · exact ih (mention_nameless h kind _ none)
    · exact congrArg (Outcome.mk · _) h

theorem declareInventory_nameless (h : s.nameless = t.nameless) (listing : Listing) (kind : Kind)
    (names : List String) :
    (s.declareInventory listing kind names).nameless
      = (t.declareInventory listing kind names).nameless := by
  refine atLevel_nameless h _ fun l l' _ => ?_
  have hset : ∀ u : Session,
      (u.modifyCurrentLevel fun l =>
        { l with
          inventory := l.inventory.modify kind (·.setListing listing (.ofList names)) }).nameless
      = u.nameless.modifyCurrentLevel fun l =>
        { l with inventory := l.inventory.modify kind (·.setListing listing (.ofList names)) } :=
    modifyCurrentLevel_nameless fun _ => rfl
  have hmention := mentionAll_nameless h kind names
  generalize s.mentionAll kind names = o at hmention ⊢
  generalize t.mentionAll kind names = o' at hmention ⊢
  obtain ⟨s', failure⟩ := o
  obtain ⟨t', failure'⟩ := o'
  obtain ⟨hsession, hfailure⟩ := Outcome.mk.inj hmention
  obtain rfl : failure = failure' := hfailure
  cases failure with
  | some failure => exact hmention
  | none =>
    have heq : s'.nameless = t'.nameless := hsession
    have hboth := hset s'
    rw [heq, ← hset t'] at hboth
    exact congrArg (Outcome.mk · none) hboth

/-! ## Exercises -/

/-- What a statement is called in the inventory does not depend on what is declared. -/
theorem docName_resolveName_eq (lookup lookup' : String → Option String) (name : Option String)
    (game game' world world' : String) (index index' : Int) :
    (resolveName lookup name game world index).docName
      = (resolveName lookup' name game' world' index').docName := by
  unfold resolveName
  cases name with
  | none => rfl
  | some name =>
    dsimp only
    split
    · cases lookup name <;> cases lookup' name <;> rfl
    · rfl

/-- Nor does what the checker reports. -/
theorem diagnostics_elaborate_eq (ds ds' : Declarations) (name name' : String)
    (signature : Signature) (script : List ScriptStep) :
    (Checker.elaborate ds name signature script).diagnostics
      = (Checker.elaborate ds' name' signature script).diagnostics := by
  unfold Checker.elaborate
  split <;> rfl

/-- Recording a statement reads the declarations, to find a name for it. Everything else that it
records is the same. -/
theorem recordStatement_nameless (h : s.nameless = t.nameless) {l l' : Level}
    (hl : l.nameless = l'.nameless) (e : Exercise) :
    (s.recordStatement l e).nameless = (t.recordStatement l' e).nameless := by
  have hgame : s.game.name = t.game.name := (congrArg (·.game.name) h :)
  have hworld : l.worldId = l'.worldId := (congrArg Level.worldId hl :)
  -- The statement is set after remarks, which are not seen.
  have hset : ∀ (u : Session) (r : Option Remark) (ds : Declarations) (m : List (Severity × String))
      (hints : List Hint) (st : Statement),
      ((reports { u.report? r with declarations := ds } m).modifyCurrentLevel fun l =>
          { l with hints := hints, statement := some st }).nameless
        = u.nameless.modifyCurrentLevel fun l =>
          { l with hints := hints, statement := some st.nameless } := by
    intro u r ds m hints st
    have hsame : (reports { u.report? r with declarations := ds } m).nameless = u.nameless :=
      (reports_nameless _ m).trans (u.report?_nameless r)
    rw [← hsame]
    exact modifyCurrentLevel_nameless (fun l => l.nameless_setStatement hints st) _
  have hrecorded : ∀ (r r' : Option Remark) (ds ds' : Declarations)
      (m m' : List (Severity × String)) (hints : List Hint) (st st' : Statement),
      st.nameless = st'.nameless →
      ((reports { s.report? r with declarations := ds } m).modifyCurrentLevel fun l =>
          { l with hints := hints, statement := some st }).nameless
        = ((reports { t.report? r' with declarations := ds' } m').modifyCurrentLevel fun l =>
          { l with hints := hints, statement := some st' }).nameless := by
    intro r r' ds ds' m m' hints st st' hst
    rw [hset, hset, h, hst]
  have hstatement : ∀ (res res' : NameResolution) (ds ds' : Declarations),
      (s.statementOf l e res (Checker.elaborate ds res.theoremName e.signature e.script).success
        ).nameless
        = (t.statementOf l' e res'
          (Checker.elaborate ds' res'.theoremName e.signature e.script).success).nameless := by
    intro res res' ds ds'
    rw [(Checker.elaborate_accepted ds _ e).1, (Checker.elaborate_accepted ds' _ e).1]
    simp only [statementOf, Statement.nameless, hgame, hworld]
  unfold recordStatement
  dsimp only
  rw [docName_resolveName_eq s.declarations.get? t.declarations.get? e.name s.game.name t.game.name
      l.worldId l'.worldId l.index l'.index,
    diagnostics_elaborate_eq s.declarations t.declarations _
      (resolveName t.declarations.get? e.name t.game.name l'.worldId l'.index).theoremName]
  split
  · exact mention_nameless (hrecorded _ _ _ _ _ _ _ _ _ (hstatement _ _ _ _)) _ _ _
  · exact hrecorded _ _ _ _ _ _ _ _ _ (hstatement _ _ _ _)

theorem declareStatement_nameless (h : s.nameless = t.nameless) (e : Exercise) :
    (s.declareStatement e).nameless = (t.declareStatement e).nameless := by
  refine atLevel_nameless h _ fun l l' hl => ?_
  have hstatement : l.statement.map Statement.nameless = l'.statement.map Statement.nameless :=
    (congrArg Level.statement hl :)
  cases hst : l.statement with
  | some st =>
    rw [hst, Option.map_some] at hstatement
    obtain ⟨st', hst', -⟩ := Option.map_eq_some_iff.1 hstatement.symm
    rw [hst']
    exact congrArg (Outcome.mk · none) (report_nameless_congr h _ _)
  | none =>
    rw [hst, Option.map_none, eq_comm, Option.map_eq_none_iff] at hstatement
    rw [hstatement]
    exact congrArg (Outcome.mk · none) (recordStatement_nameless h hl e)

/-- What can be done without names can be done first. -/
theorem nameless_congr {α : Type u} {F : Session → α} {N : α → α}
    (hF : ∀ u, N (F u) = F u.nameless) (h : s.nameless = t.nameless) : N (F s) = N (F t) := by
  rw [hF, hF, h]

/-- **Directives** do the same to sessions that are the same without names. -/
theorem author_nameless (h : s.nameless = t.nameless) (d : Directive) :
    (s.author d).nameless = (t.author d).nameless := by
  cases d with
  | setGame name => exact nameless_congr (F := fun s => (s.setGame name.val).done) (fun _ => rfl) h
  | addWorld id =>
    exact nameless_congr (F := fun s => (s.addWorld id.val).done)
      (fun u => congrArg done (u.addWorld_viewed namelessView id.val)) h
  | addPath source target =>
    exact nameless_congr (F := fun s => (s.addPath source target).done) (fun _ => rfl) h
  | setLevelIndex index =>
    exact nameless_congr (fun u => u.setLevelIndex_viewed namelessView index) h
  | setText field text =>
    exact nameless_congr (F := fun s => (s.setText field text).done)
      (fun u => congrArg done (u.setText_viewed namelessView field text)) h
  | registerDoc doc => exact congrArg done (registerDoc_nameless h doc)
  | declareInventory listing kind names => exact declareInventory_nameless h listing kind names
  | declareStatement e => exact declareStatement_nameless h e
  | declareHint step => exact congrArg done (report_nameless_congr h _ _)
  | compile => exact congrArg done h

/-! ## Compiling -/

theorem nameless_withdraw (s : Session) : s.withdraw.nameless = s.nameless := by
  have hgame : s.withdraw.game.mapLevels Level.nameless = s.game.mapLevels Level.nameless := by
    rw [game_withdraw, Game.mapLevels_mapLevels]
    rfl
  simp only [nameless, viewed, namelessView, hgame]
  rfl

/-- What is seen of a session that compiles. -/
theorem nameless_compile {bundle : Bundle} (hok : s.compilation.result = .ok bundle) :
    s.compile.session.nameless
      = { s.nameless with
          game := s.nameless.game.mapLevelsAt fun world index =>
            Level.setComputeds (s.nameless.game.computedAt s.graph s.nameless.catalogue world index)
              Kind.all
          bundle := some bundle.nameless } := by
  have hgame : s.compilation.game.mapLevels Level.nameless
      = s.nameless.game.mapLevelsAt fun world index =>
        Level.setComputeds (s.nameless.game.computedAt s.graph s.nameless.catalogue world index)
          Kind.all := by
    have hwithdraw : s.withdraw.game.mapLevels Level.nameless = s.nameless.game :=
      congrArg Session.game s.nameless_withdraw
    rw [compilation, Game.compile_of_no_obstacle (Game.compile_ok hok).1, Game.nameless_compiled,
      hwithdraw]
    rfl
  have hcatalogue : s.compilation.catalogue.cleared = s.catalogue.cleared :=
    Game.cleared_catalogue_compile ..
  rw [compile_of_ok hok]
  simp only [nameless, viewed, namelessView] at hgame ⊢
  rw [hgame, hcatalogue]
  rfl

/-- The bundle that is seen is the one of what is seen. -/
theorem bundle_nameless_compile {bundle : Bundle} (hok : s.compilation.result = .ok bundle) :
    s.compile.session.nameless.game.bundle s.graph s.nameless.catalogue = .ok bundle.nameless := by
  have hbundle : s.compilation.game.bundle s.graph s.compilation.catalogue = .ok bundle :=
    Game.bundle_of_compile_ok hok
  have hcatalogue : s.compilation.catalogue.cleared = s.catalogue.cleared :=
    Game.cleared_catalogue_compile ..
  have hnameless := Game.nameless_bundle hbundle
  rw [hcatalogue, ← (game_compile s).1] at hnameless
  exact hnameless

/-- **Compiling** does the same to sessions that are the same without names. -/
theorem compile_nameless (hs : s.WellBuilt) (ht : t.WellBuilt) (h : s.nameless = t.nameless) :
    s.compile.nameless = t.compile.nameless := by
  have hgraph : s.graph = t.graph := (congrArg Session.graph h :)
  have hgame : s.game.mapLevels Level.nameless = t.game.mapLevels Level.nameless :=
    (congrArg Session.game h :)
  have hvalidate : s.game.validate s.graph = t.game.validate t.graph := by
    rw [← s.game.validate_mapLevels s.graph Level.nameless, hgame, hgraph,
      t.game.validate_mapLevels t.graph Level.nameless]
  cases hvalid : s.game.validate s.graph with
  | error failure =>
    rw [compile_of_validate_error hvalid, compile_of_validate_error (hvalidate ▸ hvalid)]
    refine congrArg (Outcome.mk · (some failure)) ?_
    exact s.nameless_withdraw.trans (h.trans t.nameless_withdraw.symm)
  | ok _ =>
    have hfailure := hs.failure_compile_of_validate_ok hvalid
    have hfailure' := ht.failure_compile_of_validate_ok (hvalidate ▸ hvalid)
    obtain ⟨bundle, hok⟩ := failure_compile_eq_none_iff.1 hfailure
    obtain ⟨bundle', hok'⟩ := failure_compile_eq_none_iff.1 hfailure'
    -- The games that are seen are the same, and so are therefore the bundles.
    have hcompiled : s.compile.session.nameless.game = t.compile.session.nameless.game := by
      rw [nameless_compile hok, nameless_compile hok', h, hgraph]
    have hbundle : bundle.nameless = bundle'.nameless := by
      have heq := bundle_nameless_compile hok
      rw [hcompiled, h, hgraph, bundle_nameless_compile hok'] at heq
      exact (Except.ok.inj heq).symm
    have hsession : s.compile.session.nameless = t.compile.session.nameless := by
      rw [nameless_compile hok, nameless_compile hok', h, hgraph, hbundle]
    rw [eq_done_of_failure_eq_none hfailure, eq_done_of_failure_eq_none hfailure']
    exact congrArg done hsession

/-! ## Runs -/

/-- **Every command** does the same to sessions that are the same without names. -/
theorem run_nameless (hs : s.WellBuilt) (ht : t.WellBuilt) (h : s.nameless = t.nameless)
    (c : Command) : (s.run c).nameless = (t.run c).nameless := by
  cases c with
  | directive d =>
    by_cases hd : d = .compile
    · subst hd
      exact compile_nameless hs ht h
    · have hdrop : { s with bundle := none : Session }.nameless
          = { t with bundle := none : Session }.nameless := by
        have hdropped : ∀ u : Session, { u with bundle := none : Session }.nameless
            = { u.nameless with bundle := none } := fun _ => rfl
        rw [hdropped, hdropped, h]
      show (s.process d).nameless = (t.process d).nameless
      rw [process_eq_author s hd, process_eq_author t hd]
      exact author_nameless hdrop d
  | other v => exact congrArg (Outcome.mk · _) h
  | compile => exact compile_nameless hs ht h
  | reset =>
    have hsettings : s.settings = t.settings := (congrArg Session.settings h :)
    show (start s.settings s.declarations).done.nameless = (start t.settings _).done.nameless
    rw [hsettings]
    rfl

/-- Sessions that are the same without names fail alike and stay the same. -/
theorem after_nameless (hs : s.WellBuilt) (ht : t.WellBuilt) (h : s.nameless = t.nameless)
    (cs : List Command) :
    s.failures cs = t.failures cs ∧ (s.after cs).nameless = (t.after cs).nameless := by
  induction cs generalizing s t with
  | nil => exact ⟨rfl, h⟩
  | cons c cs ih =>
    obtain ⟨hsession, hfailure⟩ := Outcome.mk.inj (run_nameless hs ht h c)
    obtain ⟨hrest, hafter⟩ := ih (hs.run c) (ht.run c) hsession
    exact ⟨by rw [failures, failures, hfailure, hrest], hafter⟩

/-- What sessions have in common that are the same without names. -/
structure SameButNames (s t : Session) : Prop where
  game : s.game.mapLevels Level.nameless = t.game.mapLevels Level.nameless
  catalogue : s.catalogue.cleared = t.catalogue.cleared
  graph : s.graph = t.graph
  cursor : s.cursor = t.cursor
  bundle : s.bundle.map Bundle.nameless = t.bundle.map Bundle.nameless
  /-- What is listed and computed at a level, its hints, and whether its statement is accepted. -/
  levels : ∀ world index,
    (s.game.level? world index).map (fun l => (l.inventory, l.hints, l.statement.map (·.success)))
      = (t.game.level? world index).map fun l => (l.inventory, l.hints, l.statement.map (·.success))

theorem sameButNames_of_nameless (h : s.nameless = t.nameless) : s.SameButNames t where
  game := (congrArg Session.game h :)
  catalogue := (congrArg Session.catalogue h :)
  graph := (congrArg Session.graph h :)
  cursor := (congrArg Session.cursor h :)
  bundle := (congrArg Session.bundle h :)
  levels world index := by
    have hseen : ∀ o : Option Level,
        o.map (fun l => (l.inventory, l.hints, l.statement.map (·.success)))
          = (o.map Level.nameless).map fun l =>
            (l.inventory, l.hints, l.statement.map (·.success)) := by
      intro o
      rw [Option.map_map]
      congr 1
      funext l
      simp only [Function.comp_apply, Level.nameless, Option.map_map]
      rfl
    have hlevel := Game.map_level?_of_mapLevels
      (show s.game.mapLevels Level.nameless = t.game.mapLevels Level.nameless from
        congrArg Session.game h) world index
    rw [hseen, hlevel, ← hseen]

/-- **What does not depend on declarations.** Let the same commands be given to two sessions that
start with different declarations. Each command fails in both or in neither, and for the same
reason; so does compiling at the end. Before and after it the two have the same game, catalogue,
graph, cursor and bundle, apart from the names of statements, previews, declarations of lemmas and
messages. In particular the same items are listed at all levels, in the same states, the levels have
the same hints, and the same statements are accepted. -/
theorem independent_of_declarations (settings : Settings) (ds ds' : Declarations)
    (cs : List Command) :
    let s := (start settings ds).after cs
    let t := (start settings ds').after cs
    (start settings ds).failures cs = (start settings ds').failures cs
      ∧ s.compile.failure = t.compile.failure
      ∧ s.SameButNames t
      ∧ s.compile.session.SameButNames t.compile.session := by
  intro s t
  have hstart : (start settings ds).nameless = (start settings ds').nameless := rfl
  obtain ⟨hfailures, hafter⟩ :=
    after_nameless (wellBuilt_start settings ds) (wellBuilt_start settings ds') hstart cs
  have hcompile : s.compile.nameless = t.compile.nameless :=
    compile_nameless (wellBuilt_after settings ds cs) (wellBuilt_after settings ds' cs) hafter
  obtain ⟨hsession, hfailure⟩ := Outcome.mk.inj hcompile
  exact ⟨hfailures, hfailure, sameButNames_of_nameless hafter, sameButNames_of_nameless hsession⟩

end Session
end Curriculum
