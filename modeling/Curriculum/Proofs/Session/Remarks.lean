import Curriculum.Proofs.Session.Log
import Curriculum.Proofs.Session.Recompile

/-!
# What directives say

`remarks` lists what carrying out a directive says, from the session before it
alone. That is all that a directive adds to the log, `messages_author`: so what
the log of a run has from directives is what they said one after the other,
`mem_authored_after`, however often the game was compiled on the way.
-/

namespace Curriculum

/-- What there is to say when names are mentioned one after the other, up to one that is empty. -/
def Catalogue.remarksOnNames (c : Catalogue) (kind : Kind) : List String → List Remark
  | [] => []
  | name :: rest =>
    if h : name ≠ "" then
      (c.mention kind ⟨name, h⟩ none).2.toList
        ++ (c.mention kind ⟨name, h⟩ none).1.remarksOnNames kind rest
    else []

namespace Session

/-! ## One directive -/

/-- What is said by what is to be done at the current level. -/
def remarksAtLevel (s : Session) (what : String) (remarks : Level → List Remark) : List Remark :=
  match s.currentWorld with
  | none => []
  | some _ =>
    match s.currentLevel with
    | none => [.outsideLevel what]
    | some l => remarks l

/-- What a directive says. -/
def remarks (s : Session) : Directive → List Remark
  | .registerDoc doc => (s.catalogue.register doc).2.toList
  | .declareInventory listing kind names =>
    s.remarksAtLevel (listingText listing kind) fun _ => s.catalogue.remarksOnNames kind names
  | .declareStatement e =>
    s.remarksAtLevel "Statement" fun l =>
      match l.statement with
      | some _ => [.secondStatement]
      | none => s.remarksOn l e
  | .declareHint _ => [.strayHint]
  | _ => []

/-- What a directive says does not depend on the bundle. -/
theorem remarks_dropBundle (s : Session) (d : Directive) :
    { s with bundle := none : Session }.remarks d = s.remarks d := by
  cases d <;> rfl

theorem says_registerDoc (s : Session) (doc : Doc) :
    s.Says (s.registerDoc doc) (s.catalogue.register doc).2.toList := by
  have h := says_report? { s with catalogue := (s.catalogue.register doc).1 }
    (s.catalogue.register doc).2
  exact ⟨h.messages, h.location⟩

theorem catalogue_mention (s : Session) (kind : Kind) (name : NonEmptyText)
    (description : Option String) :
    (s.mention kind name description).catalogue
      = (s.catalogue.mention kind name description).1 :=
  report?_keeps (F := Session.catalogue) catalogue_report _ _

theorem says_mentionAll (s : Session) (kind : Kind) (names : List String) :
    s.Says (s.mentionAll kind names).session (s.catalogue.remarksOnNames kind names) := by
  induction names generalizing s with
  | nil => exact says_nil rfl rfl
  | cons name rest ih =>
    rw [mentionAll, Catalogue.remarksOnNames]
    split
    · next h =>
      have hfirst := (says_nil (s := s) rfl rfl).mention rfl kind ⟨name, h⟩ none
      have hrest := ih (s.mention kind ⟨name, h⟩ none)
      rw [catalogue_mention] at hrest
      exact hfirst.trans hrest
    · exact says_nil rfl rfl

/-- What relates a part of a level to what it says relates them outside of levels as well, where
nothing is done. -/
theorem atLevel_says {P : Session → List Remark → Prop} {s : Session} {what : String}
    {act : Level → Outcome} {remarks : Level → List Remark} (hnothing : P s [])
    (hreport : ∀ r, P (s.report r) [r])
    (hact : ∀ l, s.currentLevel = some l → P (act l).session (remarks l)) :
    P (s.atLevel what act).session (s.remarksAtLevel what remarks) := by
  unfold atLevel remarksAtLevel
  cases s.currentWorld with
  | none => exact hnothing
  | some w =>
    cases hl : s.currentLevel with
    | none => exact hreport (.outsideLevel what)
    | some l => exact hact l hl

theorem says_atLevel {s : Session} {what : String} {act : Level → Outcome}
    {remarks : Level → List Remark}
    (h : ∀ l, s.currentLevel = some l → s.Says (act l).session (remarks l)) :
    s.Says (s.atLevel what act).session (s.remarksAtLevel what remarks) :=
  atLevel_says (says_nil rfl rfl) s.says_report h

theorem says_declareInventory (s : Session) (listing : Listing) (kind : Kind)
    (names : List String) :
    s.Says (s.declareInventory listing kind names).session
      (s.remarks (.declareInventory listing kind names)) := by
  refine says_atLevel fun l _ => ?_
  have hnames := s.says_mentionAll kind names
  generalize s.mentionAll kind names = o at hnames ⊢
  obtain ⟨t, failure⟩ := o
  cases failure with
  | some failure => exact hnames
  | none =>
    have h := hnames.trans (t.says_modifyCurrentLevel fun l =>
      { l with inventory := l.inventory.modify kind (·.setListing listing (.ofList names)) })
    rwa [List.append_nil] at h

theorem says_declareStatement (s : Session) (e : Exercise) :
    s.Says (s.declareStatement e).session (s.remarks (.declareStatement e)) := by
  refine says_atLevel fun l _ => ?_
  cases l.statement with
  | some st => exact s.says_report .secondStatement
  | none => exact s.says_recordStatement l e

/-- **What a directive adds to the log** is what it says, about the place where the session was. -/
theorem messages_author (s : Session) (d : Directive) :
    (s.author d).session.messages
      = s.messages ++ (s.remarks d).map (·.message .authoring s.location) := by
  cases d with
  | registerDoc doc => exact (s.says_registerDoc doc).messages
  | declareInventory listing kind names => exact (s.says_declareInventory listing kind names).messages
  | declareStatement e => exact (s.says_declareStatement e).messages
  | declareHint step => exact (s.says_report .strayHint).messages
  | setLevelIndex index =>
    obtain ⟨game, cursor, h⟩ := s.setLevelIndex_eq index
    show (s.setLevelIndex index).session.messages = _
    rw [h]
    exact (List.append_nil _).symm
  | setText field text =>
    obtain ⟨game, h⟩ := s.setText_eq field text
    show (s.setText field text).messages = _
    rw [h]
    exact (List.append_nil _).symm
  | setGame | addWorld | addPath | compile => exact (List.append_nil _).symm

/-- Compiling aside, the log is what directives have said. -/
theorem authored_messages_process (s : Session) (d : Directive) :
    (s.process d).session.authored.messages
      = s.authored.messages ++ (s.remarks d).map (·.message .authoring s.location) := by
  by_cases hd : d = .compile
  · subst hd
    show s.compile.session.authored.messages = _
    rw [authored_compile]
    exact (List.append_nil _).symm
  · have hauthoring : ((s.remarks d).map (·.message .authoring s.location)).filter
        (·.stage = .authoring) = (s.remarks d).map (·.message .authoring s.location) := by
      refine List.filter_eq_self.2 fun m hm => ?_
      obtain ⟨r, -, rfl⟩ := List.mem_map.1 hm
      rfl
    show (s.process d).session.messages.filter _ = _
    rw [process_eq_author s hd, messages_author, remarks_dropBundle, List.filter_append]
    exact congrArg (_ ++ ·) hauthoring

/-! ## Runs of directives -/

/-- A session after directives, whether they fail or not. -/
abbrev afterAll (s : Session) (us : List Directive) : Session := s.after (us.map .directive)

theorem afterAll_nil (s : Session) : s.afterAll [] = s := rfl

theorem afterAll_cons (s : Session) (d : Directive) (us : List Directive) :
    s.afterAll (d :: us) = (s.process d).session.afterAll us := rfl

/-- What is the case before some directive is the case before the first or before one after it. -/
theorem exists_prefix_cons {P : List Directive → Directive → Prop} {d : Directive}
    {us : List Directive} :
    (∃ pre d', pre ++ [d'] <+: d :: us ∧ P pre d')
      ↔ P [] d ∨ ∃ pre d', pre ++ [d'] <+: us ∧ P (d :: pre) d' := by
  constructor
  · intro h
    obtain ⟨pre, d', hpre, h⟩ := h
    cases pre with
    | nil =>
      obtain ⟨rfl, -⟩ := List.cons_prefix_cons.1 hpre
      exact .inl h
    | cons d₀ pre =>
      obtain ⟨rfl, hrest⟩ := List.cons_prefix_cons.1 hpre
      exact .inr ⟨pre, d', hrest, h⟩
  · intro h
    rcases h with h | ⟨pre, d', hpre, h⟩
    · exact ⟨[], d, List.cons_prefix_cons.2 ⟨rfl, List.nil_prefix⟩, h⟩
    · exact ⟨d :: pre, d', List.cons_prefix_cons.2 ⟨rfl, hpre⟩, h⟩

/-- **What the log of a run has** from directives is what was there and what each of them said. -/
theorem mem_authored_after (s : Session) (us : List Directive) (m : Message) :
    m ∈ (s.afterAll us).authored.messages
      ↔ m ∈ s.authored.messages
        ∨ ∃ pre d, pre ++ [d] <+: us
          ∧ ∃ r ∈ (s.afterAll pre).remarks d, m = r.message .authoring (s.afterAll pre).location := by
  induction us generalizing s with
  | nil => simp [afterAll_nil]
  | cons d us ih =>
    rw [afterAll_cons, ih, authored_messages_process, List.mem_append, List.mem_map, or_assoc,
      exists_prefix_cons]
    simp only [afterAll_cons, afterAll_nil, eq_comm]

/-- Directives that do not fail leave the session after all of them. -/
theorem processAll_eq_done {s t : Session} {us : List Directive} (h : s.processAll us = t.done) :
    t = s.afterAll us
      ∧ ∀ pre d, pre ++ [d] <+: us → ((s.afterAll pre).process d).failure = none := by
  induction us generalizing s with
  | nil => exact ⟨(congrArg Outcome.session h).symm, by simp⟩
  | cons d us ih =>
    rw [processAll] at h
    split at h
    · next s' heq =>
      obtain ⟨ht, hrest⟩ := ih h
      have hs' : (s.process d).session = s' := congrArg Outcome.session heq
      refine ⟨by rw [afterAll_cons, hs', ht], fun pre d' hpre => ?_⟩
      cases pre with
      | nil =>
        obtain ⟨rfl, -⟩ := List.cons_prefix_cons.1 hpre
        exact congrArg Outcome.failure heq
      | cons d₀ pre =>
        obtain ⟨rfl, hpre'⟩ := List.cons_prefix_cons.1 hpre
        rw [afterAll_cons, hs']
        exact hrest pre d' hpre'
    · next hnot => exact absurd h (hnot t)

end Session
end Curriculum
