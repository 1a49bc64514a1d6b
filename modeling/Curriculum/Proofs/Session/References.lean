import Mathlib.Data.List.TakeWhile
import Curriculum.Proofs.Catalogue
import Curriculum.Proofs.Session.Failures
import Curriculum.Proofs.Session.Levels
import Curriculum.Proofs.Session.Recompile
import Curriculum.Proofs.Session.Remarks

/-!
# Names that levels refer to

A level refers to names of the catalogue: to those that it lists, and to the name
of its statement (`Level.RefersTo`). `Registered` says that all of them are there,
each under the kind under which the level refers to it.

Listing names keeps this because they are mentioned before they are listed, and
if one of them cannot be mentioned nothing is listed (`Registered.declareInventory`).
A statement is recorded first and mentioned afterwards, but nothing can fail
between the two (`Registered.recordStatement`). Whatever else is done leaves the
names of all levels as they are, and the catalogue only grows until everything
starts again.

Main statement: `registered_after`, for every run.
-/

namespace Curriculum

/-- The names of a listing. -/
def Info.listed (info : Info) : Listing → NameSet
  | .new => info.new
  | .disabled => info.disabled
  | .only => info.only

theorem Info.listed_setListing (info : Info) (listing listing' : Listing) (names : NameSet) :
    (info.setListing listing names).listed listing'
      = if listing' = listing then names else info.listed listing' := by
  cases listing <;> cases listing' <;> rfl

/-! ## Names that levels refer to -/

namespace Level

/-- Whether a level refers to a name of a kind: it lists the name, or its statement has it. -/
def RefersTo (l : Level) (kind : Kind) (name : String) : Prop :=
  (∃ info listing, l.inventory.get? kind = some info ∧ name ∈ info.listed listing)
    ∨ name ∈ l.earnedOf kind

theorem not_refersTo_fresh (world : String) (index : Int) (kind : Kind) (name : String) :
    ¬ (fresh world index).RefersTo kind name := by
  intro h
  rcases h with h | h
  · obtain ⟨info, listing, hinfo, hname⟩ := h
    have hempty : info = .empty := by
      cases kind <;> exact (Option.some.inj hinfo).symm
    rw [hempty] at hname
    cases listing <;> exact List.not_mem_nil hname
  · obtain ⟨-, -, st, hst, -⟩ := mem_earnedOf_iff.1 h
    exact absurd hst (by simp [fresh])

/-- A level at which names are listed refers to nothing new but these names. -/
theorem refersTo_setListing {l : Level} {listing : Listing} {kind kind' : Kind} {names : NameSet}
    {name : String}
    (h : RefersTo { l with inventory := l.inventory.modify kind (·.setListing listing names) } kind'
      name) : l.RefersTo kind' name ∨ kind' = kind ∧ name ∈ names := by
  rcases h with h | h
  · obtain ⟨info, listing', hinfo, hname⟩ := h
    rw [Inventory.get?_modify] at hinfo
    split at hinfo
    · next hkind =>
      obtain ⟨info', hinfo', rfl⟩ := Option.map_eq_some_iff.1 hinfo
      rw [Info.listed_setListing] at hname
      split at hname
      · exact .inr ⟨hkind, hname⟩
      · exact .inl (.inl ⟨info', listing', hinfo', hname⟩)
    · exact .inl (.inl ⟨info, listing', hinfo, hname⟩)
  · exact .inl (.inr h)

/-- A level that gets a statement refers to nothing new but the name of the statement. -/
theorem refersTo_setStatement {l : Level} {hints : List Hint} {st : Statement} {kind : Kind}
    {name : String} (h : RefersTo { l with hints := hints, statement := some st } kind name) :
    l.RefersTo kind name ∨ kind = .lemmas ∧ name ≠ "" ∧ st.name = some name := by
  rcases h with h | h
  · exact .inl (.inl h)
  · obtain ⟨hkind, hne, st', hst, hname⟩ := mem_earnedOf_iff.1 h
    obtain rfl := Option.some.inj hst
    exact .inr ⟨hkind, hne, hname⟩

/-- What compiling writes makes no difference. -/
theorem refersTo_authored (l : Level) : l.authored.RefersTo = l.RefersTo := by
  funext kind name
  have hlisted : ∀ (info : Info) listing, info.cleared.listed listing = info.listed listing := by
    intro info listing
    cases listing <;> rfl
  have hearned : l.authored.earnedOf kind = l.earnedOf kind := earnedOf_cleared l.withdrawn kind
  have hget : l.authored.inventory.get? kind = (l.inventory.get? kind).map Info.cleared :=
    Inventory.get?_cleared l.inventory kind
  simp only [RefersTo, hearned, hget, Option.map_eq_some_iff, eq_iff_iff]
  refine or_congr_left ⟨fun h => ?_, fun h => ?_⟩
  · obtain ⟨_, listing, ⟨info, hinfo, rfl⟩, hname⟩ := h
    exact ⟨info, listing, hinfo, hlisted info listing ▸ hname⟩
  · obtain ⟨info, listing, hinfo, hname⟩ := h
    exact ⟨info.cleared, listing, ⟨info, hinfo, rfl⟩, (hlisted info listing).symm ▸ hname⟩

end Level

/-- What a world introduces is referred to by one of its levels. -/
theorem World.exists_refersTo {w : World} {kind : Kind} {name : String}
    (h : name ∈ w.introduces kind) :
    ∃ index l, w.levels.get? index = some l ∧ l.RefersTo kind name := by
  obtain ⟨l, hl, hname⟩ := List.mem_flatMap.1 h
  obtain ⟨index, hl⟩ := OrderedMap.mem_values_iff.1 hl
  refine ⟨index, l, hl, ?_⟩
  rcases List.mem_append.1 hname with hnew | hearned
  · cases hinfo : l.inventory.get? kind with
    | none => simp [Level.info, hinfo, Info.empty, NameSet.empty] at hnew
    | some info =>
      rw [Level.info, hinfo, Option.getD_some] at hnew
      exact .inl ⟨info, .new, hinfo, hnew⟩
  · exact .inr hearned

/-! ## Names that are registered -/

namespace Game

/-- The names that the level at a place refers to. -/
def RefersTo (g : Game) (world : String) (index : Int) : Kind → String → Prop :=
  g.seenAt Level.RefersTo (fun _ _ => False) world index

theorem refersTo_iff {g : Game} {world : String} {index : Int} {kind : Kind} {name : String} :
    g.RefersTo world index kind name
      ↔ ∃ l, g.level? world index = some l ∧ l.RefersTo kind name := by
  rw [RefersTo, seenAt]
  cases g.level? world index <;> simp

/-- All names that levels refer to are in a catalogue. -/
def Registered (g : Game) (c : Catalogue) : Prop :=
  ∀ world index kind name, g.RefersTo world index kind name → c.contains kind name = true

/-- They are in every catalogue that has more names. -/
theorem Registered.mono {g : Game} {c c' : Catalogue} (hg : g.Registered c)
    (h : ∀ kind name, c.contains kind name = true → c'.contains kind name = true) :
    g.Registered c' := fun world index kind name hname => h kind name (hg world index kind name hname)

end Game

namespace Session

/-- All names that levels refer to are in the catalogue. -/
def Registered (s : Session) : Prop := s.game.Registered s.catalogue

/-- The names that levels refer to, and the catalogue in which they are looked up. -/
def references (s : Session) : (String → Int → Kind → String → Prop) × Catalogue :=
  (s.game.RefersTo, s.catalogue)

theorem Registered.of_references {s t : Session} (hs : s.Registered)
    (h : t.references = s.references) : t.Registered := by
  obtain ⟨hgame, hcatalogue⟩ := Prod.mk.inj h
  intro world index kind name hname
  rw [hcatalogue]
  exact hs world index kind name (congrFun (congrFun hgame world) index ▸ hname)

theorem registered_start (settings : Settings) (ds : Declarations) :
    (start settings ds).Registered := fun _ _ _ _ h => h.elim

theorem refersTo_report (s : Session) (r : Remark) :
    (s.report r).game.RefersTo = s.game.RefersTo := by
  funext world index
  exact seenAt_report (fun _ _ => rfl) s r world index

theorem references_report (s : Session) (r : Remark) :
    (s.report r).references = s.references :=
  Prod.ext (s.refersTo_report r) (s.catalogue_report r)

/-- Names that are in the catalogue may be referred to at the current level. -/
theorem registered_modifyCurrentLevel {s : Session} {c : Catalogue} (hs : s.game.Registered c)
    {f : Level → Level}
    (hf : ∀ l kind name, (f l).RefersTo kind name →
      l.RefersTo kind name ∨ c.contains kind name = true) :
    (s.modifyCurrentLevel f).game.Registered c := by
  intro world index kind name hname
  obtain ⟨l, hl, hname⟩ := Game.refersTo_iff.1 hname
  rw [level?_modifyCurrentLevel] at hl
  split at hl
  · obtain ⟨l', hl', rfl⟩ := Option.map_eq_some_iff.1 hl
    rcases hf l' kind name hname with hname | hname
    · exact hs world index kind name (Game.refersTo_iff.2 ⟨l', hl', hname⟩)
    · exact hname
  · exact hs world index kind name (Game.refersTo_iff.2 ⟨l, hl, hname⟩)

/-! ## Directives -/

theorem refersTo_mention (s : Session) (kind : Kind) (name : NonEmptyText)
    (description : Option String) :
    (s.mention kind name description).game.RefersTo = s.game.RefersTo :=
  report?_keeps (F := fun s => s.game.RefersTo) refersTo_report _ _

/-- What may be referred to once a name is mentioned. -/
theorem registered_mention {s : Session} {kind : Kind} {name : NonEmptyText}
    {description : Option String}
    (h : s.game.Registered (s.catalogue.mention kind name description).1) :
    (s.mention kind name description).Registered := by
  intro world index
  rw [refersTo_mention, catalogue_mention]
  exact h world index

/-- Names are mentioned up to the first that is empty. -/
theorem contains_mentionAll (s : Session) (kind : Kind) (names : List String) (kind' : Kind)
    (name' : String) :
    (s.mentionAll kind names).session.catalogue.contains kind' name' = true
      ↔ kind' = kind ∧ name' ∈ names.takeWhile (· ≠ "") ∨ s.catalogue.contains kind' name' = true := by
  induction names generalizing s with
  | nil => simp [mentionAll, done]
  | cons name rest ih =>
    rw [mentionAll]
    split
    · next hname =>
      rw [ih, catalogue_mention, Catalogue.contains_mention, List.takeWhile_cons_of_pos (by simpa),
        List.mem_cons, Prod.mk.injEq]
      tauto
    · next hname =>
      rw [List.takeWhile_cons_of_neg (by simpa using hname)]
      simp [failed]

theorem refersTo_mentionAll (s : Session) (kind : Kind) (names : List String) :
    (s.mentionAll kind names).session.game.RefersTo = s.game.RefersTo :=
  mentionAll_keeps (F := fun s => s.game.RefersTo) refersTo_mention s kind names

namespace Registered

variable {s : Session}

theorem report (hs : s.Registered) (r : Remark) : (s.report r).Registered :=
  hs.of_references (s.references_report r)

/-- What is mentioned on the way does no harm. -/
theorem mentionAll (hs : s.Registered) (kind : Kind) (names : List String) :
    (s.mentionAll kind names).session.Registered := by
  have hgrown := hs.mono fun kind' name' h =>
    (s.contains_mentionAll kind names kind' name').2 (.inr h)
  intro world index
  rw [refersTo_mentionAll]
  exact hgrown world index

/-- Names are listed after all of them have been mentioned. -/
theorem declareInventory (hs : s.Registered) (listing : Listing) (kind : Kind)
    (names : List String) : (s.declareInventory listing kind names).session.Registered := by
  refine declareInventory_keeps hs hs.report (hs.mentionAll kind names) fun t hdone ht => ?_
  have hcontains := s.contains_mentionAll kind names kind
  have hfailure := s.failure_mentionAll kind names
  rw [hdone] at hcontains hfailure
  have hnames : names.takeWhile (· ≠ "") = names := by
    refine List.takeWhile_eq_self_iff.2 fun name hname => decide_eq_true ?_
    intro hempty
    subst hempty
    rw [if_pos hname] at hfailure
    exact absurd hfailure (by simp [done])
  unfold Session.Registered
  rw [catalogue_modifyCurrentLevel]
  refine registered_modifyCurrentLevel ht fun l kind' name h => ?_
  refine (Level.refersTo_setListing h).imp_right fun hname => ?_
  obtain ⟨rfl, hname⟩ := hname
  rw [hnames] at hcontains
  exact (hcontains name).2 (.inl ⟨rfl, NameSet.mem_ofList.1 hname⟩)

/-- A statement is recorded, and then its name is mentioned. -/
theorem recordStatement (hs : s.Registered) (l : Level) (e : Exercise) :
    (s.recordStatement l e).Registered := by
  have hsaid : ∀ (r : Option Remark) (ds : Declarations) (m : List (Severity × String)),
      (reports { s.report? r with declarations := ds } m).references = s.references := by
    intro r ds m
    rw [reports_keeps (F := references) references_report]
    exact report?_keeps (F := references) references_report s r
  have hregistered := fun r ds m => hs.of_references (hsaid r ds m)
  have hdoc : ∀ name : NonEmptyText, e.name = some name.val →
      (resolveName s.declarations.get? e.name s.game.name l.worldId l.index).docName
        = some name := by
    intro name hname
    rw [hname]
    exact docName_resolveName _ _ _ _ _
  rw [Session.recordStatement]
  dsimp only
  split
  · next name hname =>
    refine registered_mention ?_
    rw [catalogue_modifyCurrentLevel]
    refine registered_modifyCurrentLevel ((hregistered _ _ _).mono fun kind other h =>
      (Catalogue.contains_mention ..).2 (.inr h)) fun l' kind other h => ?_
    refine (Level.refersTo_setStatement h).imp_right fun hother => ?_
    obtain ⟨rfl, hne, hother⟩ := hother
    obtain rfl := Option.some.inj (hname.symm.trans (hdoc ⟨other, hne⟩ hother))
    exact (Catalogue.contains_mention ..).2 (.inl rfl)
  · next hnone =>
    rw [Registered, catalogue_modifyCurrentLevel]
    refine registered_modifyCurrentLevel (hregistered _ _ _) fun l' kind name h => ?_
    refine (Level.refersTo_setStatement h).imp_right fun hname => ?_
    obtain ⟨-, hne, hname⟩ := hname
    exact absurd ((hdoc ⟨name, hne⟩ hname).symm.trans hnone) (by simp)

theorem declareStatement (hs : s.Registered) (e : Exercise) :
    (s.declareStatement e).session.Registered := by
  refine atLevel_keeps hs hs.report fun l _ => ?_
  split
  · exact hs.report .secondStatement
  · exact hs.recordStatement l e

theorem registerDoc (hs : s.Registered) (doc : Doc) : (s.registerDoc doc).Registered := by
  have hgrown : Registered { s with catalogue := (s.catalogue.register doc).1 } :=
    hs.mono fun kind name h => (s.catalogue.contains_register doc kind name).2 (.inr h)
  exact hgrown.of_references (report?_keeps (F := references) references_report _ _)

/-- **Names** that levels refer to are registered by the directives that bring them. -/
theorem author (hs : s.Registered) (d : Directive) : (s.author d).session.Registered := by
  cases d with
  | declareInventory listing kind names => exact hs.declareInventory listing kind names
  | declareStatement e => exact hs.declareStatement e
  | registerDoc doc => exact hs.registerDoc doc
  | declareHint step => exact hs.report .strayHint
  | addWorld id => exact hs.of_references (Prod.ext (funext₂ (s.seenAt_addWorld id.val)) rfl)
  | setLevelIndex index =>
    obtain ⟨game, cursor, h⟩ := s.setLevelIndex_eq index
    have hfresh : ∀ world index, (Level.fresh world index).RefersTo = fun _ _ => False :=
      fun world index => funext₂ fun kind name =>
        eq_false (Level.not_refersTo_fresh world index kind name)
    exact of_references (t := (s.setLevelIndex index).session) hs
      (Prod.ext (funext₂ (seenAt_setLevelIndex hfresh s index)) (congrArg Session.catalogue h :))
  | setText field text =>
    obtain ⟨game, h⟩ := s.setText_eq field text
    exact of_references (t := s.setText field text) hs
      (Prod.ext (funext₂ (seenAt_setText (fun _ _ => rfl) s field text))
        (congrArg Session.catalogue h :))
  | setGame | addPath | compile => exact hs

/-- What compiling writes makes no difference. -/
theorem of_authored {t : Session} (hs : s.Registered) (h : t.authored = s.authored) :
    t.Registered := by
  intro world index kind name hname
  have hgame : t.game.RefersTo world index = s.game.RefersTo world index :=
    Game.seenAt_of_mapLevels Level.refersTo_authored (congrArg Session.game h) _ world index
  have hcatalogue : t.catalogue.cleared = s.catalogue.cleared := (congrArg Session.catalogue h :)
  rw [← t.catalogue.contains_cleared, hcatalogue, s.catalogue.contains_cleared]
  exact hs world index kind name (hgame ▸ hname)

theorem run (hs : s.Registered) (c : Command) : (s.run c).session.Registered := by
  have hcompile : s.compile.session.Registered := hs.of_authored s.authored_compile
  cases c with
  | directive d =>
    by_cases hd : d = .compile
    · subst hd
      exact hcompile
    · show (s.process d).session.Registered
      rw [process_eq_author s hd]
      exact author (s := { s with bundle := none }) hs d
  | other v => exact hs
  | compile => exact hcompile
  | reset => exact registered_start s.settings s.declarations

end Registered

theorem registered_after (settings : Settings) (ds : Declarations) (cs : List Command) :
    ((start settings ds).after cs).Registered :=
  after_of_run (fun _ c hs => hs.run c) (registered_start settings ds) cs

end Session
end Curriculum
