import Curriculum.Proofs.Session.Edits
import Curriculum.Proofs.Session.Integrity

/-!
# What a directive leaves alone

A directive changes what the cursor points at, and next to nothing else.
Directives for the inventory and for exercises say things on the way, so what they
do is put together from steps: `Speaks` is a step that only says something, and
goes together with further ones; `Acts` is a step with one edit of the current
level in it. Neither touches what a session is apart from its levels, `outline`.
The directives that are left build the structure and say nothing.

Main statement: `process_changedBy`, for every session and every directive other
than the one that compiles, whether it fails or not.
-/

namespace Curriculum.Session

variable {s t u : Session} {d : Directive} {ms ms' : List Message}

/-! ## Steps at the current place -/

/-- What a session is apart from its levels: what it is about, and where it is. -/
def outline (s : Session) : Cursor × WorldGraph × Game := (s.cursor, s.graph, s.game.outline)

theorem outline_modifyCurrentLevel (s : Session) (f : Level → Level) :
    (s.modifyCurrentLevel f).outline = s.outline := by
  unfold modifyCurrentLevel
  split
  · exact congrArg (fun g => (s.cursor, s.graph, g)) (s.game.outline_modifyLevel _ _ f)
  · rfl

theorem cursor_of_outline (h : t.outline = s.outline) : t.cursor = s.cursor :=
  (congrArg Prod.fst h :)

/-- A step that says something about the current place, and mentions names perhaps. -/
structure Speaks (s t : Session) (ms : List Message) : Prop where
  outline : t.outline = s.outline
  messages : t.messages = s.messages ++ ms
  level : ∀ world index, t.game.level? world index
    = if s.cursor = .level world index then (s.game.level? world index).map (·.heard ms)
      else s.game.level? world index
  catalogue : s.catalogue.KeptBy t.catalogue

theorem speaks_refl (s : Session) : s.Speaks s [] where
  outline := rfl
  messages := (List.append_nil _).symm
  level world index := by
    simp only [Level.heard_nil, Option.map_id_fun', id_eq, ite_self]
  catalogue := s.catalogue.keptBy_refl

theorem Speaks.trans (h : s.Speaks t ms) (h' : t.Speaks u ms') : s.Speaks u (ms ++ ms') where
  outline := h'.outline.trans h.outline
  messages := by rw [h'.messages, h.messages, List.append_assoc]
  level world index := by
    rw [h'.level, h.level, cursor_of_outline h.outline]
    split
    · simp only [Option.map_map, Function.comp_def, Level.heard_heard]
    · rfl
  catalogue kind name item hitem := h'.catalogue kind name item (h.catalogue kind name item hitem)

theorem speaks_report (s : Session) (r : Remark) :
    s.Speaks (s.report r) [r.message .authoring s.location] where
  outline := s.outline_modifyCurrentLevel _
  messages := rfl
  level := s.level?_modifyCurrentLevel _
  catalogue := by
    rw [catalogue_report]
    exact s.catalogue.keptBy_refl

theorem exists_speaks_report? (s : Session) (r : Option Remark) :
    ∃ ms, s.Speaks (s.report? r) ms := by
  cases r with
  | none => exact ⟨[], s.speaks_refl⟩
  | some r => exact ⟨_, s.speaks_report r⟩

theorem exists_speaks_reports (s : Session) (l : List (Severity × String)) :
    ∃ ms, s.Speaks (s.reports l) ms := by
  induction l generalizing s with
  | nil => exact ⟨[], s.speaks_refl⟩
  | cons m rest ih =>
    obtain ⟨ms, hrest⟩ := ih (s.report (.fromChecker m.1 m.2))
    exact ⟨_, (s.speaks_report _).trans hrest⟩

theorem exists_speaks_mention (s : Session) (kind : Kind) (name : NonEmptyText)
    (description : Option String) : ∃ ms, s.Speaks (s.mention kind name description) ms := by
  obtain ⟨ms, h⟩ := exists_speaks_report?
    { s with catalogue := (s.catalogue.mention kind name description).1 }
    (s.catalogue.mention kind name description).2
  refine ⟨ms, h.outline, h.messages, h.level, ?_⟩
  rw [catalogue_mention]
  exact s.catalogue.keptBy_mention kind name description

theorem exists_speaks_mentionAll (s : Session) (kind : Kind) (names : List String) :
    ∃ ms, s.Speaks (s.mentionAll kind names).session ms := by
  induction names generalizing s with
  | nil => exact ⟨[], s.speaks_refl⟩
  | cons name rest ih =>
    rw [mentionAll]
    split
    · next hname =>
      obtain ⟨ms, hfirst⟩ := s.exists_speaks_mention kind ⟨name, hname⟩ none
      obtain ⟨ms', hrest⟩ := ih (s.mention kind ⟨name, hname⟩ none)
      exact ⟨_, hfirst.trans hrest⟩
    · exact ⟨[], s.speaks_refl⟩

/-- A step that edits the current level and says something about it. -/
structure Acts (s : Session) (d : Directive) (ms : List Message) (t : Session) : Prop where
  outline : t.outline = s.outline
  messages : t.messages = s.messages ++ ms
  here : ∀ world index l, s.cursor = .level world index → s.game.level? world index = some l →
    ∃ l', t.game.level? world index = some l' ∧ Level.Edit d (l.heard ms) l'
  elsewhere : ∀ world index l, s.cursor ≠ .level world index → s.game.level? world index = some l →
    t.game.level? world index = some l
  absent : ∀ world index, s.game.level? world index = none → t.game.level? world index = none
  catalogue : s.catalogue.DocumentedBy d t.catalogue

theorem Speaks.here (h : s.Speaks t ms) {world : String} {index : Int} {l : Level}
    (hc : s.cursor = .level world index) (hl : s.game.level? world index = some l) :
    t.game.level? world index = some (l.heard ms) := by
  rw [h.level, if_pos hc, hl, Option.map_some]

theorem Speaks.elsewhere (h : s.Speaks t ms) {world : String} {index : Int}
    (hc : s.cursor ≠ .level world index) :
    t.game.level? world index = s.game.level? world index := by
  rw [h.level, if_neg hc]

theorem Speaks.absent (h : s.Speaks t ms) {world : String} {index : Int}
    (hnone : s.game.level? world index = none) : t.game.level? world index = none := by
  rw [h.level, hnone, Option.map_none, ite_self]

theorem Speaks.acts (h : s.Speaks t ms) (d : Directive) : s.Acts d ms t where
  outline := h.outline
  messages := h.messages
  here _ _ l hc hl := ⟨l.heard ms, h.here hc hl, .keep d (l.heard ms)⟩
  elsewhere _ _ _ hc hl := (h.elsewhere hc).trans hl
  absent _ _ := h.absent
  catalogue := h.catalogue.documentedBy d

/-- First something is said, and then the current level is edited. -/
theorem Speaks.edit (h : s.Speaks t ms) {f : Level → Level}
    (hf : ∀ l, s.currentLevel = some l → Level.Edit d (l.heard ms) (f (l.heard ms))) :
    s.Acts d ms (t.modifyCurrentLevel f) where
  outline := (t.outline_modifyCurrentLevel f).trans h.outline
  messages := by
    obtain ⟨worlds, heq⟩ := t.modifyCurrentLevel_eq f
    rw [heq]
    exact h.messages
  here world index l hc hl := by
    refine ⟨f (l.heard ms), ?_, hf l ((currentLevel_of_cursor hc).trans hl)⟩
    rw [level?_modifyCurrentLevel, cursor_of_outline h.outline, if_pos hc, h.here hc hl,
      Option.map_some]
  elsewhere world index l hc hl := by
    rw [level?_modifyCurrentLevel, cursor_of_outline h.outline, if_neg hc, h.elsewhere hc, hl]
  absent world index hnone := by
    rw [level?_modifyCurrentLevel, h.absent hnone, Option.map_none, ite_self]
  catalogue := by
    rw [catalogue_modifyCurrentLevel]
    exact h.catalogue.documentedBy d

/-- First the current level is edited, and then something is said. -/
theorem Acts.speak (h : s.Acts d ms t) (h' : t.Speaks u ms') : s.Acts d (ms ++ ms') u where
  outline := h'.outline.trans h.outline
  messages := by rw [h'.messages, h.messages, List.append_assoc]
  here world index l hc hl := by
    obtain ⟨l', hl', hedit⟩ := h.here world index l hc hl
    refine ⟨l'.heard ms', h'.here ((cursor_of_outline h.outline).trans hc) hl', ?_⟩
    rw [← Level.heard_heard]
    exact hedit.heard ms'
  elsewhere world index l hc hl :=
    (h'.elsewhere fun heq => hc ((cursor_of_outline h.outline).symm.trans heq)).trans
      (h.elsewhere world index l hc hl)
  absent world index hnone := h'.absent (h.absent world index hnone)
  catalogue kind name item hitem := by
    rcases h.catalogue kind name item hitem with hsame | ⟨hplaceholder, doc, hd, hkind, hname, hdoc⟩
    · exact .inl (h'.catalogue kind name item hsame)
    · exact .inr ⟨hplaceholder, doc, hd, hkind, hname, h'.catalogue kind name _ hdoc.1, hdoc.2⟩

theorem exists_acts_mention (h : ∃ ms, s.Acts d ms t) (kind : Kind) (name : NonEmptyText)
    (description : Option String) : ∃ ms, s.Acts d ms (t.mention kind name description) := by
  obtain ⟨ms, h⟩ := h
  obtain ⟨ms', hmentioned⟩ := t.exists_speaks_mention kind name description
  exact ⟨ms ++ ms', h.speak hmentioned⟩

/-! ## Directives for the inventory and for exercises -/

theorem exists_acts_declareInventory (s : Session) (listing : Listing) (kind : Kind)
    (names : List String) :
    ∃ ms, s.Acts (.declareInventory listing kind names) ms
      (s.declareInventory listing kind names).session := by
  obtain ⟨ms, hmentioned⟩ := s.exists_speaks_mentionAll kind names
  refine declareInventory_keeps
    (P := fun t => ∃ ms, s.Acts (.declareInventory listing kind names) ms t)
    ⟨[], s.speaks_refl.acts _⟩ (fun r => ⟨_, (s.speaks_report r).acts _⟩) ⟨ms, hmentioned.acts _⟩
    fun t hdone _ => ⟨ms, ?_⟩
  rw [hdone] at hmentioned
  exact hmentioned.edit fun l _ => .listing listing kind names (l.heard ms)

theorem exists_acts_recordStatement {l : Level} (hl : s.currentLevel = some l)
    (hst : l.statement = none) (e : Exercise) :
    ∃ ms, s.Acts (.declareStatement e) ms (s.recordStatement l e) := by
  -- What is said about the name and by the checker, with a declaration in between.
  have hsaid : ∀ (r : Option Remark) (ds : Declarations) (m : List (Severity × String)),
      ∃ ms, s.Speaks (reports { s.report? r with declarations := ds } m) ms := by
    intro r ds m
    obtain ⟨ms, hname⟩ := s.exists_speaks_report? r
    obtain ⟨ms', hscript⟩ := exists_speaks_reports { s.report? r with declarations := ds } m
    have hdeclared : s.Speaks { s.report? r with declarations := ds } ms :=
      ⟨hname.outline, hname.messages, hname.level, hname.catalogue⟩
    exact ⟨_, hdeclared.trans hscript⟩
  have hrecorded : ∀ (r : Option Remark) (ds : Declarations) (m : List (Severity × String))
      (hints : List Hint) (st : Statement), st.preview = none →
      ∃ ms, s.Acts (.declareStatement e) ms
        ((reports { s.report? r with declarations := ds } m).modifyCurrentLevel fun l =>
          { l with hints := hints, statement := some st }) := by
    intro r ds m hints st hpreview
    obtain ⟨ms, hsaid⟩ := hsaid r ds m
    refine ⟨ms, hsaid.edit fun l' hl' => ?_⟩
    obtain rfl := Option.some.inj (hl.symm.trans hl')
    exact .statement e (l.heard ms) hints st hst hpreview
  rw [recordStatement]
  dsimp only
  split
  · refine exists_acts_mention ?_ .lemmas _ e.description
    exact hrecorded _ _ _ _ _ rfl
  · exact hrecorded _ _ _ _ _ rfl

theorem exists_acts_declareStatement (s : Session) (e : Exercise) :
    ∃ ms, s.Acts (.declareStatement e) ms (s.declareStatement e).session := by
  refine atLevel_keeps (P := fun t => ∃ ms, s.Acts (.declareStatement e) ms t)
    ⟨[], s.speaks_refl.acts _⟩ (fun r => ⟨_, (s.speaks_report r).acts _⟩) fun l hl => ?_
  split
  · exact ⟨_, (s.speaks_report .secondStatement).acts _⟩
  · next hst => exact exists_acts_recordStatement hl hst e

theorem exists_acts_registerDoc (s : Session) (doc : Doc) :
    ∃ ms, s.Acts (.registerDoc doc) ms (s.registerDoc doc) := by
  obtain ⟨ms, h⟩ := exists_speaks_report? { s with catalogue := (s.catalogue.register doc).1 }
    (s.catalogue.register doc).2
  have hacts := h.acts (.registerDoc doc)
  refine ⟨ms, hacts.outline, hacts.messages, hacts.here, hacts.elsewhere, hacts.absent, ?_⟩
  have hcatalogue : (s.registerDoc doc).catalogue = (s.catalogue.register doc).1 :=
    report?_keeps (F := Session.catalogue) catalogue_report _ _
  rw [hcatalogue]
  exact s.catalogue.documentedBy_register doc

/-! ## Directives -/

/-- What has become of a session under a directive that has said `ms`. -/
structure ChangedBy (d : Directive) (ms : List Message) (s t : Session) : Prop where
  messages : t.messages = s.messages ++ ms
  levels : s.game.LevelsChangedBy s.cursor d ms t.game
  worlds : s.game.WorldsChangedBy s.cursor d t.game
  catalogue : s.catalogue.DocumentedBy d t.catalogue
  graph : s.graph.GrownBy d t.graph

theorem Acts.changedBy (h : s.Acts d ms t) : s.ChangedBy d ms t where
  messages := h.messages
  levels := by
    constructor
    case here =>
      intro world index l hc hl
      obtain ⟨l', hl', hedit⟩ := h.here world index l hc hl
      exact ⟨l', hl', hedit.changedBy⟩
    case elsewhere => exact h.elsewhere
    case added =>
      exact fun world index l hnone hl =>
        absurd ((h.absent world index hnone).symm.trans hl) (by simp)
  worlds := Game.worldsChangedBy_of_outline (congrArg (·.2.2) h.outline :)
  catalogue := h.catalogue
  graph := by
    have hgraph : t.graph = s.graph := (congrArg (·.2.1) h.outline :)
    rw [hgraph]
    exact s.graph.grownBy_refl d

/-- Directives that build the structure say nothing. -/
theorem changedBy_of_silent (hmessages : t.messages = s.messages)
    (hcatalogue : t.catalogue = s.catalogue)
    (hlevels : s.game.LevelsChangedBy s.cursor d [] t.game)
    (hworlds : s.game.WorldsChangedBy s.cursor d t.game) (hgraph : s.graph.GrownBy d t.graph) :
    s.ChangedBy d [] t where
  messages := by rw [hmessages, List.append_nil]
  levels := hlevels
  worlds := hworlds
  catalogue := by
    rw [hcatalogue]
    exact s.catalogue.keptBy_refl.documentedBy d
  graph := hgraph

theorem changedBy_setGame (s : Session) (name : Identifier) :
    s.ChangedBy (.setGame name) [] (s.setGame name.val) := by
  refine changedBy_of_silent rfl rfl (Game.levelsChangedBy_of_level?_eq fun _ _ => rfl) ?_
    (s.graph.grownBy_refl _)
  exact Game.worldsChangedBy_of_worlds_eq (.inr ⟨name, rfl, rfl⟩) (.inl rfl) rfl

theorem changedBy_addWorld (s : Session) (id : Identifier) :
    s.ChangedBy (.addWorld id) [] (s.addWorld id.val) := by
  refine changedBy_of_silent rfl rfl (Game.levelsChangedBy_of_level?_eq (s.level?_addWorld id.val))
    ?_ (s.graph.grownBy_addWorld id)
  unfold Session.addWorld
  dsimp only
  split
  · exact Game.worldsChangedBy_of_outline rfl
  · next hnew =>
    rw [OrderedMap.contains_eq_isSome, Option.not_isSome_iff_eq_none] at hnew
    constructor
    case name => exact .inl rfl
    case texts => exact .inl rfl
    case kept =>
      intro world w hw
      refine ⟨w, ?_, rfl, .inl rfl⟩
      rw [OrderedMap.get?_insert, if_neg]
      · exact hw
      · rintro rfl
        exact absurd (hnew.symm.trans hw) (by simp)
    case added =>
      intro world w hnone hw
      rw [OrderedMap.get?_insert] at hw
      split at hw
      · next hworld =>
        rw [← Option.some.inj hw, hworld]
        exact ⟨rfl, id, rfl, rfl⟩
      · exact absurd (hnone.symm.trans hw) (by simp)

theorem changedBy_addPath (s : Session) (source target : String) :
    s.ChangedBy (.addPath source target) [] (s.addPath source target) :=
  changedBy_of_silent rfl rfl (Game.levelsChangedBy_of_level?_eq fun _ _ => rfl)
    (Game.worldsChangedBy_of_outline rfl) (s.graph.grownBy_addEdge source target)

theorem outline_game_setLevelIndex (s : Session) (index : Int) :
    (s.setLevelIndex index).session.game.outline = s.game.outline := by
  unfold setLevelIndex
  split
  · split
    · rfl
    · dsimp only [done]
      split
      · rfl
      · refine Game.outline_modifyWorld (fun _ => ?_) s.game _
        exact ⟨rfl, rfl⟩
  · rfl

theorem changedBy_setLevelIndex (s : Session) (index : Int) :
    s.ChangedBy (.setLevelIndex index) [] (s.setLevelIndex index).session := by
  obtain hsame | ⟨world, w, hw, hcursor, hlevel⟩ := s.level?_setLevelIndex index
  · rw [hsame]
    exact (s.speaks_refl.acts _).changedBy
  obtain ⟨game, cursor, heq⟩ := s.setLevelIndex_eq index
  refine changedBy_of_silent (by rw [heq]) (by rw [heq]) ?_
    (Game.worldsChangedBy_of_outline (s.outline_game_setLevelIndex index)) ?_
  · -- A level that is there is the one that is turned to.
    have hkept : ∀ world' index' l, s.game.level? world' index' = some l →
        (s.setLevelIndex index).session.game.level? world' index' = some l := by
      intro world' index' l hl
      rw [hlevel]
      split
      · next hplace =>
        rw [← hplace.1, ← hplace.2, hl, Option.getD_some]
      · exact hl
    constructor
    case here =>
      intro world' index' l _ hl
      exact ⟨l, hkept world' index' l hl, l.changedBy_refl _⟩
    case elsewhere => exact fun world' index' l _ hl => hkept world' index' l hl
    case added =>
      intro world' index' l hnone hl
      rw [hlevel] at hl
      split at hl
      · next hplace =>
        obtain ⟨rfl, rfl⟩ := hplace
        rw [hnone, Option.getD_none, Option.some_inj] at hl
        have hworld := s.world?_setLevelIndex index'
        rw [hcursor] at hworld
        exact ⟨rfl, hworld.symm, w, hw, hl.symm⟩
      · exact absurd (hnone.symm.trans hl) (by simp)
  · rw [(s.worlds_setLevelIndex index).2]
    exact s.graph.grownBy_refl _

theorem changedBy_setText (s : Session) (field : TextField) (text : String) :
    s.ChangedBy (.setText field text) [] (s.setText field text) := by
  unfold setText
  split
  · next hc =>
    refine changedBy_of_silent rfl rfl (Game.levelsChangedBy_of_level?_eq fun _ _ => rfl) ?_
      (s.graph.grownBy_refl _)
    exact Game.worldsChangedBy_of_worlds_eq (.inl rfl)
      (.inr ⟨hc, s.game.texts.writtenBy_set field text⟩) rfl
  · next id hc =>
    refine changedBy_of_silent rfl rfl ?_ ?_ (s.graph.grownBy_refl _)
    · exact Game.levelsChangedBy_of_level?_eq fun world index =>
        s.game.level?_modifyWorld_of_levels (f := fun w => { w with texts := w.texts.set field text })
          (fun _ => rfl) id world index
    · constructor
      case name => exact .inl rfl
      case texts => exact .inl rfl
      case kept =>
        intro world w hw
        rw [Game.get?_worlds_modifyWorld]
        split
        · next hworld =>
          subst hworld
          rw [hw]
          exact ⟨_, rfl, rfl, .inr ⟨hc, w.texts.writtenBy_set field text⟩⟩
        · exact ⟨w, hw, rfl, .inl rfl⟩
      case added =>
        intro world w hnone hw
        rw [Game.get?_worlds_modifyWorld, hnone] at hw
        split at hw <;> exact absurd hw (by simp)
  · have hacts : s.Acts (.setText field text) [] (s.modifyCurrentLevel fun l =>
        { l with texts := l.texts.set field text }) :=
      s.speaks_refl.edit fun l _ => .text field text (l.heard [])
    exact hacts.changedBy

/-- What carrying out a directive changes. -/
theorem exists_changedBy_author (s : Session) (d : Directive) :
    ∃ ms, s.ChangedBy d ms (s.author d).session := by
  have hacts : (∃ ms, s.Acts d ms (s.author d).session) →
      ∃ ms, s.ChangedBy d ms (s.author d).session := fun ⟨ms, h⟩ => ⟨ms, h.changedBy⟩
  cases d with
  | setGame name => exact ⟨[], s.changedBy_setGame name⟩
  | addWorld id => exact ⟨[], s.changedBy_addWorld id⟩
  | addPath source target => exact ⟨[], s.changedBy_addPath source target⟩
  | setLevelIndex index => exact ⟨[], s.changedBy_setLevelIndex index⟩
  | setText field text => exact ⟨[], s.changedBy_setText field text⟩
  | registerDoc doc => exact hacts (s.exists_acts_registerDoc doc)
  | declareInventory listing kind names =>
    exact hacts (s.exists_acts_declareInventory listing kind names)
  | declareStatement e => exact hacts (s.exists_acts_declareStatement e)
  | declareHint step => exact hacts ⟨_, (s.speaks_report .strayHint).acts _⟩
  | compile => exact hacts ⟨[], s.speaks_refl.acts _⟩

/-- Only a statement declares something, and only one name. -/
theorem declarationsAfter_cases (s : Session) (d : Directive) :
    s.declarationsAfter d = s.declarations
      ∨ ∃ e name, d = .declareStatement e
        ∧ s.declarationsAfter d = s.declarations.insert name e.signature.render := by
  cases hd : s.declares d with
  | none => exact .inl (declarationsAfter_of_declares_eq_none hd)
  | some declared =>
    cases d with
    | declareStatement e =>
      obtain ⟨l, -, h⟩ := Option.bind_eq_some_iff.1 hd
      split at h
      · obtain rfl := Option.some.inj h
        exact .inr ⟨e, s.nameFor l e, rfl, by rw [declarationsAfter, hd]⟩
      · exact absurd h (by simp)
    | _ => exact absurd hd (by simp [declares])

/-- **What a directive leaves alone.** Whatever was done before, and whether the directive fails or
not, what it changes is at the cursor, in the catalogue, the graph, the log or the declarations, and
is of the kind that it is about. -/
theorem process_changedBy (s : Session) {d : Directive} (hd : d ≠ .compile) :
    let t := (s.process d).session
    (∃ ms, s.ChangedBy d ms t)
      ∧ t.settings = s.settings
      ∧ (t.declarations = s.declarations ∨ ∃ e name, d = .declareStatement e
        ∧ t.declarations = s.declarations.insert name e.signature.render) := by
  intro t
  have ht : t = ({ s with bundle := none : Session }.author d).session :=
    congrArg Outcome.session (s.process_eq_author hd)
  obtain ⟨ms, h⟩ := exists_changedBy_author { s with bundle := none } d
  rw [← ht] at h
  refine ⟨⟨ms, h.messages, h.levels, h.worlds, h.catalogue, h.graph⟩, ?_, ?_⟩
  · exact s.run_settings (.directive d)
  · show (s.process d).session.declarations = _ ∨ _
    rw [process_declarations]
    exact s.declarationsAfter_cases d

/-- A level with a statement, and another level to which the cursor is turned. -/
def turnedToSecond : List Command := [
  .directive (.addWorld worldW),
  .directive (.setLevelIndex 1),
  .directive (.declareStatement (plainExercise none propP)),
  .directive (.setLevelIndex 2)]

/-- Listing an empty name at the second level fails after another name has been mentioned. The log
grows, and the first level keeps its statement. -/
theorem process_turnedToSecond :
    let s := (start .standard .empty).after turnedToSecond
    let o := s.process (.declareInventory .new .tactics ["rw", ""])
    o.failure = some .emptyName ∧ s.messages <+: o.session.messages
      ∧ ∃ l, l.statement.isSome = true ∧ s.game.level? "W" 1 = some l
        ∧ o.session.game.level? "W" 1 = some l := by
  intro s o
  have hfailure : o.failure = some .emptyName := by decide +kernel
  have hfirst : ((s.game.level? "W" 1).bind (·.statement)).isSome = true := by decide +kernel
  obtain ⟨st, hst⟩ := Option.isSome_iff_exists.1 hfirst
  obtain ⟨l, hl, hst⟩ := Option.bind_eq_some_iff.1 hst
  obtain ⟨⟨ms, h⟩, -, -⟩ :=
    process_changedBy s (d := .declareInventory .new .tactics ["rw", ""]) (by simp)
  refine ⟨hfailure, ⟨ms, h.messages.symm⟩, l, by rw [hst, Option.isSome_some], hl, ?_⟩
  exact h.levels.elsewhere "W" 1 l (by decide +kernel) hl

end Curriculum.Session
