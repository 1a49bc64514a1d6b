import Curriculum.Proofs.Session.View

/-!
# What the author has made

`authored` is a session without anything that compiling writes: no computed
items, no previews, no looked up statements, no messages of compilations, no
bundle. Directives neither read nor write any of this, so carrying out a
directive and leaving it away can be done in either order. There is one such
statement for each operation, from `report_authored` to
`declareStatement_authored`, and they add up to one for directives.

Main statement: `author_authored`, for every directive and every session.
-/

namespace Curriculum

/-- A level without what compiling writes to it. -/
def Level.authored (l : Level) : Level := l.withdrawn.cleared

namespace Session

/-- A session without what compiling writes to it. -/
def authored (s : Session) : Session :=
  { s with
    game := s.game.mapLevels Level.authored
    catalogue := s.catalogue.cleared
    messages := s.messages.filter (·.stage = .authoring)
    bundle := none }

end Session

/-- An outcome without what compiling writes. -/
def Outcome.authored (o : Outcome) : Outcome := ⟨o.session.authored, o.failure⟩

/-! ## Levels -/

namespace Level

theorem authored_fresh (world : String) (index : Int) :
    (fresh world index).authored = fresh world index := rfl

/-- A level with one more message. -/
def said (m : Message) (l : Level) : Level := { l with diagnostics := l.diagnostics ++ [m] }

/-- A message that is not of a compilation stays. -/
theorem authored_said (l : Level) {m : Message} (hm : m.stage = .authoring) :
    (l.said m).authored = l.authored.said m := by
  have hfilter : (l.diagnostics ++ [m]).filter (·.stage = .authoring)
      = l.diagnostics.filter (·.stage = .authoring) ++ [m] := by
    rw [List.filter_append, List.filter_singleton, hm]
    rfl
  simp only [authored, withdrawn, said, hfilter]
  rfl

/-- Listing names changes what is declared, not what was computed. -/
theorem authored_setListing (l : Level) (listing : Listing) (kind : Kind) (names : NameSet) :
    { l with inventory := l.inventory.modify kind (·.setListing listing names) : Level }.authored
      = { l.authored with
          inventory := l.authored.inventory.modify kind (·.setListing listing names) } := by
  have hinventory : (l.inventory.modify kind (·.setListing listing names)).cleared
      = l.inventory.cleared.modify kind (·.setListing listing names) := by
    refine Inventory.ext_get? fun kind' => ?_
    simp only [Inventory.get?_cleared, Inventory.get?_modify]
    split
    · rw [Option.map_map, Option.map_map]
      congr 1
      funext info
      cases listing <;> rfl
    · rfl
  simp only [authored, withdrawn, cleared, unpreviewed, hinventory]

/-- A statement that has no preview stays. -/
theorem authored_setStatement (l : Level) (hints : List Hint) {st : Statement}
    (hst : st.preview = none) :
    { l with hints := hints, statement := some st : Level }.authored
      = { l.authored with hints := hints, statement := some st } := by
  have hcleared : st.cleared = st := by rw [Statement.cleared, ← hst]
  simp only [authored, withdrawn, cleared, unpreviewed, Option.map_some, hcleared]

end Level

/-! ## The catalogue -/

namespace Catalogue

theorem lookup_cleared (c : Catalogue) (kind : Kind) (name : String) :
    c.cleared.lookup kind name = (c.lookup kind name).map Item.cleared :=
  OrderedMap.get?_map Item.cleared c.entries (kind, name)

theorem contains_cleared (c : Catalogue) (kind : Kind) (name : String) :
    c.cleared.contains kind name = c.contains kind name := by
  rw [contains, lookup_cleared, Option.isSome_map, contains]

theorem isDocumented_cleared (c : Catalogue) (kind : Kind) (name : String) :
    c.cleared.isDocumented kind name = c.isDocumented kind name := by
  rw [isDocumented, lookup_cleared, isDocumented]
  cases c.lookup kind name with
  | none => rfl
  | some item =>
    simp only [Option.map_some, Item.cleared]
    split <;> rfl

/-- Writing an item without a statement. -/
theorem cleared_insert (c : Catalogue) (key : Kind × String) (item : Item)
    (hitem : item.statement = none) :
    Catalogue.cleared ⟨c.entries.insert key item⟩ = ⟨c.cleared.entries.insert key item⟩ := by
  have hcleared : item.cleared = item := by
    unfold Item.cleared
    split
    · rw [← hitem]
    · rfl
  rw [cleared, mapItems, OrderedMap.map_insert, hcleared]
  rfl

theorem register_cleared (c : Catalogue) (doc : Doc) :
    c.cleared.register doc = ((c.register doc).1.cleared, (c.register doc).2) := by
  rw [register, register, isDocumented_cleared]
  split
  · rfl
  · rw [cleared_insert c _ doc.item rfl]

theorem mention_cleared (c : Catalogue) (kind : Kind) (name : NonEmptyText)
    (description : Option String) :
    c.cleared.mention kind name description
      = ((c.mention kind name description).1.cleared, (c.mention kind name description).2) := by
  rw [mention.eq_def, mention.eq_def, contains_cleared]
  split
  · rfl
  · split
    · rw [cleared_insert c _ (Doc.ofDescription kind name _).item rfl]
    · rw [cleared_insert c _ (.placeholderFor kind name) rfl]

end Catalogue

namespace Session

/-! ## The current place -/

/-- What the author has made, as a view of the session. -/
def authoredView : View where
  level := Level.authored
  declarations ds := ds
  messages ms := ms.filter (·.stage = .authoring)
  bundle _ := none
  level_fresh := Level.authored_fresh
  level_texts _ _ _ := rfl

theorem currentWorld_authored (s : Session) :
    s.authored.currentWorld = s.currentWorld.map fun w => w.mapLevels Level.authored :=
  s.currentWorld_viewed authoredView

theorem currentLevel_authored (s : Session) :
    s.authored.currentLevel = s.currentLevel.map Level.authored :=
  s.currentLevel_viewed authoredView

theorem modifyCurrentLevel_authored {f f' : Level → Level}
    (h : ∀ l, (f l).authored = f' l.authored) (s : Session) :
    (s.modifyCurrentLevel f).authored = s.authored.modifyCurrentLevel f' :=
  modifyCurrentLevel_viewed authoredView h s

theorem report_authored (s : Session) (r : Remark) :
    (s.report r).authored = s.authored.report r := by
  calc (s.report r).authored
      = { (s.modifyCurrentLevel (·.said (r.message .authoring s.location))).authored with
          messages :=
            (s.messages ++ [r.message .authoring s.location]).filter (·.stage = .authoring) } := rfl
    _ = { s.authored.modifyCurrentLevel (·.said (r.message .authoring s.location)) with
          messages := s.authored.messages ++ [r.message .authoring s.location] } := by
        rw [modifyCurrentLevel_authored fun l => l.authored_said rfl, List.filter_append]
        rfl
    _ = s.authored.report r := rfl

theorem report?_authored (s : Session) (r : Option Remark) :
    (s.report? r).authored = s.authored.report? r := by
  cases r with
  | none => rfl
  | some r => exact s.report_authored r

theorem reports_authored (s : Session) (l : List (Severity × String)) :
    (s.reports l).authored = s.authored.reports l := by
  induction l generalizing s with
  | nil => rfl
  | cons m rest ih => rw [reports_cons, reports_cons, ih, report_authored]

/-- What is done at the current level only sees what the author has made. -/
theorem atLevel_authored {s : Session} {act act' : Level → Outcome} (what : String)
    (h : ∀ l, s.currentLevel = some l → (act l).authored = act' l.authored) :
    (s.atLevel what act).authored = s.authored.atLevel what act' := by
  rw [atLevel, atLevel, currentWorld_authored, currentLevel_authored]
  cases s.currentWorld with
  | none => rfl
  | some w =>
    cases hl : s.currentLevel with
    | none => exact congrArg done (s.report_authored _)
    | some l => exact h l hl

/-! ## Structure -/

theorem addWorld_authored (s : Session) (id : String) :
    (s.addWorld id).authored = s.authored.addWorld id := s.addWorld_viewed authoredView id

theorem setLevelIndex_authored (s : Session) (index : Int) :
    (s.setLevelIndex index).authored = s.authored.setLevelIndex index :=
  s.setLevelIndex_viewed authoredView index

theorem setText_authored (s : Session) (field : TextField) (text : String) :
    (s.setText field text).authored = s.authored.setText field text :=
  s.setText_viewed authoredView field text

/-! ## Inventory -/

theorem keepCatalogue_authored (s : Session) (change : Catalogue × Option Remark) :
    (s.keepCatalogue change).authored = s.authored.keepCatalogue (change.1.cleared, change.2) :=
  report?_authored _ _

theorem registerDoc_authored (s : Session) (doc : Doc) :
    (s.registerDoc doc).authored = s.authored.registerDoc doc := by
  rw [registerDoc, keepCatalogue_authored, registerDoc, authored, Catalogue.register_cleared]

theorem mention_authored (s : Session) (kind : Kind) (name : NonEmptyText)
    (description : Option String) :
    (s.mention kind name description).authored = s.authored.mention kind name description := by
  rw [mention, keepCatalogue_authored, mention, authored, Catalogue.mention_cleared]

theorem mentionAll_authored (s : Session) (kind : Kind) (names : List String) :
    (s.mentionAll kind names).authored = s.authored.mentionAll kind names := by
  induction names generalizing s with
  | nil => rfl
  | cons name rest ih =>
    rw [mentionAll, mentionAll]
    split
    · rw [ih, mention_authored]
    · rfl

theorem declareInventory_authored (s : Session) (listing : Listing) (kind : Kind)
    (names : List String) :
    (s.declareInventory listing kind names).authored
      = s.authored.declareInventory listing kind names := by
  refine atLevel_authored _ fun l _ => ?_
  rw [← mentionAll_authored]
  cases s.mentionAll kind names with
  | mk t failure =>
    cases failure with
    | some failure => rfl
    | none =>
      exact congrArg done
        (modifyCurrentLevel_authored (fun l => l.authored_setListing listing kind _) t)

/-! ## Exercises -/

theorem recordStatement_authored (s : Session) (l : Level) (e : Exercise) :
    (s.recordStatement l e).authored = s.authored.recordStatement l.authored e := by
  have hset : ∀ (t : Session) (hints : List Hint) (st : Statement), st.preview = none →
      (t.modifyCurrentLevel fun l => { l with hints := hints, statement := some st }).authored
        = t.authored.modifyCurrentLevel fun l => { l with hints := hints, statement := some st } :=
    fun t hints st hst => modifyCurrentLevel_authored (fun l => l.authored_setStatement hints hst) t
  have hdeclare : ∀ (t : Session) (ds : Declarations),
      ({ t with declarations := ds } : Session).authored = { t.authored with declarations := ds } :=
    fun _ _ => rfl
  have hresolve : resolveName s.authored.declarations.get? e.name s.authored.game.name
        l.authored.worldId l.authored.index
      = resolveName s.declarations.get? e.name s.game.name l.worldId l.index := rfl
  have hdeclarations : s.authored.declarations = s.declarations := rfl
  -- The name and the verdict read nothing that compiling writes, so they are the same.
  rw [recordStatement, recordStatement, hresolve, hdeclarations]
  dsimp only
  split
  · rw [mention_authored, hset _ _ _ rfl, reports_authored, hdeclare, report?_authored]
    rfl
  · rw [hset _ _ _ rfl, reports_authored, hdeclare, report?_authored]
    rfl

theorem declareStatement_authored (s : Session) (e : Exercise) :
    (s.declareStatement e).authored = s.authored.declareStatement e := by
  refine atLevel_authored _ fun l _ => ?_
  have hstatement : l.authored.statement = l.statement.map Statement.cleared := rfl
  rw [hstatement]
  cases l.statement with
  | some st => exact congrArg done (s.report_authored _)
  | none => exact congrArg done (s.recordStatement_authored l e)

/-- **Directives** neither read nor write what compiling writes. -/
theorem author_authored (s : Session) (d : Directive) :
    (s.author d).authored = s.authored.author d := by
  cases d with
  | setGame name => rfl
  | addWorld id => exact congrArg done (s.addWorld_authored id.val)
  | addPath source target => rfl
  | setLevelIndex index => exact s.setLevelIndex_authored index
  | setText field text => exact congrArg done (s.setText_authored field text)
  | registerDoc doc => exact congrArg done (s.registerDoc_authored doc)
  | declareInventory listing kind names => exact s.declareInventory_authored listing kind names
  | declareStatement e => exact s.declareStatement_authored e
  | declareHint step => exact congrArg done (s.report_authored _)
  | compile => rfl

end Session
end Curriculum
