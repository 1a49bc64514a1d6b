import Curriculum.Proofs.Session.References

/-!
# What a directive may change

A directive is about one thing, and what it changes is of that kind. Here this is
said of each part of a session on its own. To a level a directive may do one of
three things besides saying something about it (`Level.Edit`): write a text, list
names of one kind, or state an exercise where there is none. So of a level that
was edited everything else is what it was, `Level.Edit.changedBy`.

`Game.LevelsChangedBy` and `Game.WorldsChangedBy` say it of the levels and the
worlds of a game, given the cursor, `Catalogue.DocumentedBy` of the items of a
catalogue, `WorldGraph.GrownBy` of a graph. Worlds do not change where only levels
do, `Game.worldsChangedBy_of_outline`.
-/

namespace Curriculum

/-! ## Texts and listings -/

/-- One of the texts. -/
def Texts.get (t : Texts) : TextField → Option String
  | .title => t.title
  | .introduction => t.introduction
  | .conclusion => t.conclusion

theorem Texts.get_set (t : Texts) (field field' : TextField) (text : String) :
    (t.set field text).get field' = if field' = field then some text else t.get field' := by
  cases field <;> cases field' <;> rfl

/-- Texts stay as they are, apart from the one that a directive writes. -/
def Texts.WrittenBy (d : Directive) (t t' : Texts) : Prop :=
  ∀ field, t'.get field = t.get field ∨ ∃ text, d = .setText field text ∧ t'.get field = some text

theorem Texts.writtenBy_refl (d : Directive) (t : Texts) : WrittenBy d t t := fun _ => .inl rfl

theorem Texts.writtenBy_set (field : TextField) (text : String) (t : Texts) :
    WrittenBy (.setText field text) t (t.set field text) := by
  intro field'
  rw [get_set]
  split
  · next h => exact .inr ⟨text, by rw [h], rfl⟩
  · exact .inl rfl

/-- What is computed for a kind stays as it is, and so does what is listed, apart from the one
listing that a directive fills with other names. -/
structure Info.ListedBy (d : Directive) (kind : Kind) (info info' : Info) : Prop where
  computed : info'.computed = info.computed
  listed : ∀ listing, info'.listed listing = info.listed listing
    ∨ ∃ names, d = .declareInventory listing kind names ∧ info'.listed listing = .ofList names

theorem Info.listedBy_refl (d : Directive) (kind : Kind) (info : Info) : info.ListedBy d kind info :=
  ⟨rfl, fun _ => .inl rfl⟩

theorem Info.listedBy_setListing (listing : Listing) (kind : Kind) (names : List String)
    (info : Info) :
    info.ListedBy (.declareInventory listing kind names) kind
      (info.setListing listing (.ofList names)) where
  computed := by cases listing <;> rfl
  listed listing' := by
    rw [listed_setListing]
    split
    · next h => exact .inr ⟨names, by rw [h], rfl⟩
    · exact .inl rfl

/-! ## Levels -/

namespace Level

variable {d : Directive} {ms : List Message} {l l' : Level}

/-- A level about which more has been said. -/
def heard (ms : List Message) (l : Level) : Level := { l with diagnostics := l.diagnostics ++ ms }

theorem heard_nil (l : Level) : l.heard [] = l := by rw [heard, List.append_nil]

theorem heard_heard (l : Level) (ms ms' : List Message) :
    (l.heard ms).heard ms' = l.heard (ms ++ ms') := by
  simp only [heard, List.append_assoc]

/-- What a directive may do to a level besides saying something about it. -/
inductive Edit : Directive → Level → Level → Prop where
  | keep (d : Directive) (l : Level) : Edit d l l
  | text (field : TextField) (text : String) (l : Level) :
    Edit (.setText field text) l { l with texts := l.texts.set field text }
  | listing (listing : Listing) (kind : Kind) (names : List String) (l : Level) :
    Edit (.declareInventory listing kind names) l
      { l with inventory := l.inventory.modify kind (·.setListing listing (.ofList names)) }
  | statement (e : Exercise) (l : Level) (hints : List Hint) (st : Statement)
    (hl : l.statement = none) (hst : st.preview = none) :
    Edit (.declareStatement e) l { l with hints := hints, statement := some st }

/-- An edit may be made before or after something is said about the level. -/
theorem Edit.heard (h : Edit d l l') (ms : List Message) : Edit d (l.heard ms) (l'.heard ms) := by
  cases h with
  | keep => exact .keep d (l.heard ms)
  | text field text => exact .text field text (l.heard ms)
  | listing listing kind names => exact .listing listing kind names (l.heard ms)
  | statement e _ hints st hl hst => exact .statement e (l.heard ms) hints st hl hst

/-- What has become of a level under a directive that has said `ms` about it. -/
structure ChangedBy (d : Directive) (ms : List Message) (l l' : Level) : Prop where
  place : l'.worldId = l.worldId ∧ l'.index = l.index
  diagnostics : l'.diagnostics = l.diagnostics ++ ms
  texts : l.texts.WrittenBy d l'.texts
  no_info : ∀ kind, l.inventory.get? kind = none → l'.inventory.get? kind = none
  info : ∀ kind info, l.inventory.get? kind = some info →
    ∃ info', l'.inventory.get? kind = some info' ∧ info.ListedBy d kind info'
  /-- A statement is never replaced, and neither are its hints. -/
  stated : ∀ st, l.statement = some st → l'.statement = some st ∧ l'.hints = l.hints
  not_stated : l.statement = none → (l'.statement = none ∧ l'.hints = l.hints)
    ∨ ∃ e st, d = .declareStatement e ∧ l'.statement = some st
  preview : l'.statement.bind (·.preview) = l.statement.bind (·.preview)

theorem Edit.changedBy (h : Edit d (l.heard ms) l') : l.ChangedBy d ms l' where
  place := by cases h <;> exact ⟨rfl, rfl⟩
  diagnostics := by cases h <;> rfl
  texts := by
    cases h with
    | text field text => exact l.texts.writtenBy_set field text
    | keep | listing | statement => exact l.texts.writtenBy_refl _
  no_info kind hnone := by
    cases h with
    | listing listing kind' names =>
      rw [Inventory.get?_modify]
      split
      · exact Option.map_eq_none_iff.2 hnone
      · exact hnone
    | keep | text | statement => exact hnone
  info kind info hinfo := by
    cases h with
    | listing listing kind' names =>
      dsimp only
      rw [Inventory.get?_modify]
      split
      · next hkind =>
        subst hkind
        exact ⟨_, Option.map_eq_some_iff.2 ⟨info, hinfo, rfl⟩,
          info.listedBy_setListing listing kind names⟩
      · exact ⟨info, hinfo, info.listedBy_refl _ kind⟩
    | keep | text | statement => exact ⟨info, hinfo, info.listedBy_refl _ kind⟩
  stated st hst := by
    cases h with
    | statement e _ hints st' hl => exact absurd (hst.symm.trans hl) (by simp)
    | keep | text | listing => exact ⟨hst, rfl⟩
  not_stated hnone := by
    cases h with
    | statement e _ hints st => exact .inr ⟨e, st, rfl, rfl⟩
    | keep | text | listing => exact .inl ⟨hnone, rfl⟩
  preview := by
    cases h with
    | statement e _ hints st hl hst =>
      have hnone : l.statement = none := hl
      rw [hnone]
      exact hst
    | keep | text | listing => rfl

theorem changedBy_refl (d : Directive) (l : Level) : l.ChangedBy d [] l := by
  have hkeep : Edit d (l.heard []) l := by
    rw [l.heard_nil]
    exact .keep d l
  exact hkeep.changedBy

end Level

/-! ## Games -/

namespace Game

variable {cursor : Cursor} {d : Directive} {ms : List Message} {g g' : Game}

/-- What has become of the levels under a directive that was given with the cursor at a place. -/
structure LevelsChangedBy (cursor : Cursor) (d : Directive) (ms : List Message) (g g' : Game) :
    Prop where
  here : ∀ world index l, cursor = .level world index → g.level? world index = some l →
    ∃ l', g'.level? world index = some l' ∧ l.ChangedBy d ms l'
  elsewhere : ∀ world index l, cursor ≠ .level world index → g.level? world index = some l →
    g'.level? world index = some l
  /-- Levels are only added to the current world, by turning to them. -/
  added : ∀ world index l, g.level? world index = none → g'.level? world index = some l →
    d = .setLevelIndex index ∧ cursor.world? = some world
      ∧ ∃ w, g.worlds.get? world = some w ∧ l = .fresh w.id index

/-- What has become of the game itself and of its worlds, apart from their levels. -/
structure WorldsChangedBy (cursor : Cursor) (d : Directive) (g g' : Game) : Prop where
  name : g'.name = g.name ∨ ∃ name, d = .setGame name ∧ g'.name = name.val
  texts : g'.texts = g.texts ∨ cursor = .game ∧ g.texts.WrittenBy d g'.texts
  kept : ∀ world w, g.worlds.get? world = some w →
    ∃ w', g'.worlds.get? world = some w' ∧ w'.id = w.id
      ∧ (w'.texts = w.texts ∨ cursor = .world world ∧ w.texts.WrittenBy d w'.texts)
  added : ∀ world w, g.worlds.get? world = none → g'.worlds.get? world = some w →
    w = .fresh world ∧ ∃ id, d = .addWorld id ∧ id.val = world

theorem levelsChangedBy_of_level?_eq
    (h : ∀ world index, g'.level? world index = g.level? world index) :
    g.LevelsChangedBy cursor d [] g' where
  here world index l _ hl := ⟨l, (h world index).trans hl, l.changedBy_refl d⟩
  elsewhere world index l _ hl := (h world index).trans hl
  added world index l hnone hl := absurd (hnone.symm.trans ((h world index).symm.trans hl)) (by simp)

/-- All worlds stay as they are. -/
theorem worldsChangedBy_of_worlds_eq
    (hname : g'.name = g.name ∨ ∃ name, d = .setGame name ∧ g'.name = name.val)
    (htexts : g'.texts = g.texts ∨ cursor = .game ∧ g.texts.WrittenBy d g'.texts)
    (hworlds : g'.worlds = g.worlds) : g.WorldsChangedBy cursor d g' where
  name := hname
  texts := htexts
  kept world w hw := ⟨w, by rw [hworlds, hw], rfl, .inl rfl⟩
  added world w hnone hw := by
    rw [hworlds, hnone] at hw
    exact absurd hw (by simp)

/-- A game without its levels. -/
def outline (g : Game) : Game :=
  { g with worlds := g.worlds.map fun w => { w with levels := .empty } }

theorem outline_modifyWorld {f : World → World}
    (h : ∀ w, (f w).id = w.id ∧ (f w).texts = w.texts) (g : Game) (world : String) :
    (g.modifyWorld world f).outline = g.outline := by
  have hworlds : (g.worlds.modify world f).map (fun w => { w with levels := OrderedMap.empty : World })
      = (g.worlds.map fun w => { w with levels := .empty }).modify world fun w => w :=
    OrderedMap.map_modify (fun w => by rw [(h w).1, (h w).2]) g.worlds world
  rw [OrderedMap.modify_id] at hworlds
  simp only [outline, modifyWorld, hworlds]

theorem outline_modifyLevel (g : Game) (world : String) (index : Int) (f : Level → Level) :
    (g.modifyLevel world index f).outline = g.outline :=
  outline_modifyWorld (f := fun w => { w with levels := w.levels.modify index f })
    (fun _ => ⟨rfl, rfl⟩) g world

theorem worldsChangedBy_of_outline (h : g'.outline = g.outline) : g.WorldsChangedBy cursor d g' := by
  have hworld : ∀ world,
      (g'.worlds.get? world).map (fun w => { w with levels := OrderedMap.empty : World })
        = (g.worlds.get? world).map fun w => { w with levels := .empty } := by
    intro world
    have hget := congrArg (fun g : Game => g.worlds.get? world) h
    simpa only [outline, OrderedMap.get?_map] using hget
  constructor
  case name => exact .inl (congrArg Game.name h :)
  case texts => exact .inl (congrArg Game.texts h :)
  case kept =>
    intro world w hw
    have hw' := hworld world
    rw [hw] at hw'
    obtain ⟨w', hget, heq⟩ := Option.map_eq_some_iff.1 hw'
    exact ⟨w', hget, (congrArg World.id heq :), .inl (congrArg World.texts heq :)⟩
  case added =>
    intro world w hnone hw
    have hw' := hworld world
    rw [hnone, hw] at hw'
    exact absurd hw' (by simp)

end Game

/-! ## The catalogue and the graph -/

/-- A placeholder may be documented; all other items stay as they are. -/
def Catalogue.DocumentedBy (d : Directive) (c c' : Catalogue) : Prop :=
  ∀ kind name item, c.lookup kind name = some item →
    c'.lookup kind name = some item
      ∨ item.placeholder = true
        ∧ ∃ doc, d = .registerDoc doc ∧ doc.kind = kind ∧ doc.name.val = name
          ∧ c'.lookup kind name = some doc.item ∧ doc.item.placeholder = false

namespace Catalogue

/-- All items stay as they are. -/
def KeptBy (c c' : Catalogue) : Prop :=
  ∀ kind name item, c.lookup kind name = some item → c'.lookup kind name = some item

theorem keptBy_refl (c : Catalogue) : c.KeptBy c := fun _ _ _ h => h

theorem KeptBy.documentedBy {c c' : Catalogue} (h : c.KeptBy c') (d : Directive) :
    c.DocumentedBy d c' := fun kind name item hitem => .inl (h kind name item hitem)

/-- An item for a name that has none. -/
theorem keptBy_insert {c : Catalogue} {kind : Kind} {name : String}
    (h : ¬ c.contains kind name = true) (item : Item) :
    c.KeptBy ⟨c.entries.insert (kind, name) item⟩ := by
  intro kind' name' item' hitem
  rw [lookup, OrderedMap.get?_insert, if_neg]
  · exact hitem
  · intro heq
    obtain ⟨rfl, rfl⟩ := Prod.mk.inj heq
    rw [contains, hitem] at h
    exact h rfl

theorem keptBy_mention (c : Catalogue) (kind : Kind) (name : NonEmptyText)
    (description : Option String) : c.KeptBy (c.mention kind name description).1 := by
  unfold mention
  split
  · exact c.keptBy_refl
  · next h =>
    split
    · exact keptBy_insert h _
    · exact keptBy_insert h _

theorem documentedBy_register (c : Catalogue) (doc : Doc) :
    c.DocumentedBy (.registerDoc doc) (c.register doc).1 := by
  unfold register
  split
  · exact c.keptBy_refl.documentedBy _
  · next h =>
    intro kind name item hitem
    rw [lookup, OrderedMap.get?_insert]
    split
    · next heq =>
      obtain ⟨rfl, rfl⟩ := Prod.mk.inj heq
      rw [isDocumented, hitem] at h
      exact .inr ⟨by simpa using h, doc, rfl, rfl, rfl, rfl, rfl⟩
    · exact .inl hitem

end Catalogue

/-- Worlds and edges of a graph stay, in their order, and more come only where a directive adds
them. -/
structure WorldGraph.GrownBy (d : Directive) (g g' : WorldGraph) : Prop where
  worlds : g.worlds <+: g'.worlds
  edges : g.edges <+: g'.edges
  world_added : ∀ world ∈ g'.worlds, world ∈ g.worlds ∨ (∃ id, d = .addWorld id ∧ id.val = world)
    ∨ ∃ source target, d = .addPath source target ∧ (world = source ∨ world = target)
  edge_added : ∀ e ∈ g'.edges, e ∈ g.edges ∨ d = .addPath e.1 e.2

theorem prefix_appendNew [DecidableEq α] (a : α) (l : List α) : l <+: appendNew a l := by
  unfold appendNew
  split
  · exact List.prefix_rfl
  · exact List.prefix_append l [a]

namespace WorldGraph

theorem grownBy_refl (d : Directive) (g : WorldGraph) : g.GrownBy d g :=
  ⟨List.prefix_rfl, List.prefix_rfl, fun _ => .inl, fun _ => .inl⟩

theorem grownBy_addWorld (g : WorldGraph) (id : Identifier) :
    g.GrownBy (.addWorld id) (g.addWorld id.val) where
  worlds := prefix_appendNew id.val g.worlds
  edges := List.prefix_rfl
  world_added _ h := (mem_appendNew.1 h).imp_right fun heq => .inl ⟨id, rfl, heq.symm⟩
  edge_added _ := .inl

theorem grownBy_addEdge (g : WorldGraph) (source target : String) :
    g.GrownBy (.addPath source target) (g.addEdge source target) where
  worlds := (prefix_appendNew source g.worlds).trans (prefix_appendNew target _)
  edges := prefix_appendNew (source, target) g.edges
  world_added world h := by
    rcases mem_appendNew.1 h with h | h
    · exact (mem_appendNew.1 h).imp_right fun h => .inr ⟨source, target, rfl, .inl h⟩
    · exact .inr (.inr ⟨source, target, rfl, .inr h⟩)
  edge_added _ h := (mem_appendNew.1 h).imp_right fun heq => by rw [heq]

end WorldGraph

end Curriculum
