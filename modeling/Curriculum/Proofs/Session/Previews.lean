import Mathlib.Data.List.Induction
import Curriculum.Proofs.Session.Declared
import Curriculum.Proofs.Session.Refusal
import Curriculum.Proofs.Session.Statements

/-!
# What is shown of a statement

A preview is looked up by name when a game is compiled, in what is declared by
then. A name has the type that the last statement to succeed under it has given
it, or the type that it had at the start; `LastType` says this of a run, and
`get?_declarations_after_iff` that it is what is found.

So a level need not show its own statement (`ShowsOwn`). A statement that was
accepted is not shown if a later one has succeeded under the same name with
another type. In place of a statement that was rejected, whatever declaration
has its name is shown, be it one from the start or that of another statement,
and there is no warning.

Main statement: `showsOwn_iff`. `shown_of_others` is a run in which both happen.
-/

namespace Curriculum

/-! ## Declarations as they are shown -/

namespace Declarations

variable {ds : Declarations} {name : String}

theorem shownOr_of_get?_eq_some {type : String} (h : ds.get? name = some type)
    (notFound : String) : ds.shownOr notFound name = renderDeclaration name type := by
  rw [shownOr, rendered?, h]
  rfl

theorem shownOr_of_get?_eq_none (h : ds.get? name = none) (notFound : String) :
    ds.shownOr notFound name = notFound := by
  rw [shownOr, rendered?, h]
  rfl

theorem isNone_rendered? : (ds.rendered? name).isNone = (ds.get? name).isNone := by
  rw [rendered?, Option.isNone_map]

end Declarations

/-- The type of a signature starts with the bracket of a binder or, if there is none, a colon. -/
theorem Signature.head?_render (signature : Signature) :
    signature.render.toList.head? = some '(' ∨ signature.render.toList.head? = some ':' := by
  unfold Signature.render
  cases signature.binders.entries with
  | nil => exact .inr (by simp [String.toList_append])
  | cons binder rest =>
    refine .inl ?_
    dsimp only [List.map_cons]
    rw [if_neg (by simp), String.toList_append, String.toList_append, String.toList_intercalate]
    cases rest <;> simp [List.intercalate, String.toList_append]

/-- The type of a signature follows the name directly. -/
theorem renderDeclaration_render (name : String) (signature : Signature) :
    renderDeclaration name signature.render = name ++ " " ++ signature.render := by
  unfold renderDeclaration
  rcases signature.head?_render with h | h
  · rw [h]
    rfl
  · rw [h]
    rfl

/-- Declarations of a name that are shown alike have the same type, if the types are those of
signatures. -/
theorem render_inj_of_renderDeclaration {name : String} {signature signature' : Signature}
    (h : renderDeclaration name signature.render = renderDeclaration name signature'.render) :
    signature.render = signature'.render := by
  rw [renderDeclaration_render, renderDeclaration_render] at h
  exact (String.append_right_inj _).1 h

namespace Session

variable {s : Session} {cs pre : List Command} {c : Command} {name type : String}

/-! ## The type that a name has last -/

/-- In a longer run the same statements succeed, and perhaps one more at its end. -/
theorem succeedsAt_concat_iff :
    s.SucceedsAt (cs ++ [c]) pre name type
      ↔ s.SucceedsAt cs pre name type
        ∨ pre = cs ∧ ∃ d, c = .directive d ∧ (s.after cs).declares d = some (name, type) := by
  simp only [succeedsAt_iff]
  constructor
  · intro h
    obtain ⟨d, hpre, hd⟩ := h
    rcases List.prefix_concat_iff.1 hpre with heq | hpre
    · obtain ⟨rfl, hc⟩ := List.append_inj' heq rfl
      exact .inr ⟨rfl, d, (List.cons.inj hc).1.symm, hd⟩
    · exact .inl ⟨d, hpre, hd⟩
  · intro h
    rcases h with ⟨d, hpre, hd⟩ | ⟨rfl, d, rfl, hd⟩
    · exact ⟨d, hpre.trans (List.prefix_append _ _), hd⟩
    · exact ⟨d, List.prefix_rfl, hd⟩

theorem SucceedsAt.length_lt (h : s.SucceedsAt cs pre name type) : pre.length < cs.length := by
  obtain ⟨d, hpre, -⟩ := succeedsAt_iff.1 h
  have hle := hpre.length_le
  rw [List.length_append, List.length_singleton] at hle
  omega

/-- What succeeds at one point of a run has one type. -/
theorem SucceedsAt.type_eq {pre' : List Command} {type' : String}
    (h : s.SucceedsAt cs pre name type) (h' : s.SucceedsAt cs pre' name type')
    (hlength : pre.length = pre'.length) : type = type' := by
  obtain ⟨d, hpre, hd⟩ := succeedsAt_iff.1 h
  obtain ⟨d', hpre', hd'⟩ := succeedsAt_iff.1 h'
  have hle : pre ++ [.directive d] <+: pre' ++ [.directive d'] :=
    List.prefix_of_prefix_length_le hpre hpre' (by simp [hlength])
  obtain ⟨rfl, hlast⟩ := List.append_inj' (hle.eq_of_length (by simp [hlength])) rfl
  obtain rfl := Command.directive.inj (List.cons.inj hlast).1
  exact (Prod.mk.inj (Option.some.inj (hd.symm.trans hd'))).2

/-- The type that a name has at the end of a run: what the last statement to succeed under the name
has given it or, if none does, what it had at the start. -/
def LastType (s : Session) (cs : List Command) (name type : String) : Prop :=
  (∃ pre, s.SucceedsAt cs pre name type
      ∧ ∀ pre' type', s.SucceedsAt cs pre' name type' → pre'.length ≤ pre.length)
    ∨ s.declarations.get? name = some type ∧ ∀ pre type', ¬ s.SucceedsAt cs pre name type'

theorem lastType_nil : s.LastType [] name type ↔ s.declarations.get? name = some type := by
  have hnone : ∀ pre type', ¬ s.SucceedsAt [] pre name type' :=
    fun _ _ h => absurd h.length_lt (Nat.not_lt_zero _)
  simp [LastType, hnone]

/-- A statement that succeeds under a name settles its type. -/
theorem lastType_concat_of_declares {d : Directive} {type' : String}
    (h : (s.after cs).declares d = some (name, type')) :
    s.LastType (cs ++ [.directive d]) name type ↔ type = type' := by
  have hlast : s.SucceedsAt (cs ++ [.directive d]) cs name type' :=
    succeedsAt_concat_iff.2 (.inr ⟨rfl, d, rfl, h⟩)
  constructor
  · intro hty
    rcases hty with ⟨pre, hpre, hmax⟩ | ⟨-, hnone⟩
    · rcases succeedsAt_concat_iff.1 hpre with hearlier | ⟨-, d', hd', h'⟩
      · exact absurd (hmax cs type' hlast) (Nat.not_le_of_lt hearlier.length_lt)
      · obtain rfl := Command.directive.inj hd'
        exact (Prod.mk.inj (Option.some.inj (h'.symm.trans h))).2
    · exact absurd hlast (hnone cs type')
  · rintro rfl
    refine .inl ⟨cs, hlast, fun pre type' hpre => ?_⟩
    have hlt := hpre.length_lt
    rw [List.length_append, List.length_singleton] at hlt
    omega

/-- Whatever else is done, a name keeps the type that it has. -/
theorem lastType_concat_of_not_declares
    (h : ∀ d type', c = .directive d → (s.after cs).declares d ≠ some (name, type')) :
    s.LastType (cs ++ [c]) name type ↔ s.LastType cs name type := by
  have hsame : ∀ pre type', s.SucceedsAt (cs ++ [c]) pre name type'
      ↔ s.SucceedsAt cs pre name type' := by
    intro pre type'
    rw [succeedsAt_concat_iff, or_iff_left]
    rintro ⟨-, d, hc, hd⟩
    exact h d type' hc hd
  simp only [LastType, hsame]

/-- A command that does not declare a name leaves its type as it is. -/
theorem get?_declarations_run_of_not_declares
    (h : ∀ d type, c = .directive d → s.declares d ≠ some (name, type)) :
    (s.run c).session.declarations.get? name = s.declarations.get? name := by
  rw [run_declarations]
  cases c with
  | directive d =>
    simp only [declarationsAfter]
    split
    · next name' type hd =>
      have hne : name ≠ name' := by
        rintro rfl
        exact h d type rfl hd
      rw [OrderedMap.get?_insert, if_neg hne]
    · rfl
  | _ => rfl

/-- **The type of a name** after a run is what the last statement to succeed under the name has
given it, or what it had before. -/
theorem get?_declarations_after_iff :
    (s.after cs).declarations.get? name = some type ↔ s.LastType cs name type := by
  -- The last statement to succeed is found from the end of the run.
  induction cs using List.reverseRecOn with
  | nil => exact lastType_nil.symm
  | append_singleton cs c ih =>
    by_cases h : ∃ d type', c = .directive d ∧ (s.after cs).declares d = some (name, type')
    · obtain ⟨d, type', rfl, hd⟩ := h
      rw [declarations_after_concat hd, OrderedMap.get?_insert, if_pos rfl,
        lastType_concat_of_declares hd, Option.some_inj, eq_comm]
    · have hnot : ∀ d type', c = .directive d →
          (s.after cs).declares d ≠ some (name, type') :=
        fun d type' hc hd => h ⟨d, type', hc, hd⟩
      rw [after_concat, get?_declarations_run_of_not_declares hnot,
        lastType_concat_of_not_declares hnot, ih]

/-- Once a statement has succeeded under a name, the name has the type of a signature. -/
theorem LastType.exists_signature {type' : String} (h : s.LastType cs name type)
    (hat : s.SucceedsAt cs pre name type') : ∃ signature : Signature, signature.render = type := by
  rcases h with ⟨-, ⟨-, st, -, -, -, -, -, hrender⟩, -⟩ | ⟨-, hnone⟩
  · exact ⟨st.signature, hrender⟩
  · exact absurd hat (hnone pre type')

/-- Once a statement has succeeded under a name, the name has a type. -/
theorem SucceedsAt.exists_lastType (h : s.SucceedsAt cs pre name type) :
    ∃ type', s.LastType cs name type' := by
  obtain ⟨d, ⟨rest, rfl⟩, hd⟩ := succeedsAt_iff.1 h
  have hdeclared : ((s.after (pre ++ [.directive d])).declarations.get? name).isSome := by
    rw [declarations_after_concat hd, OrderedMap.get?_insert, if_pos rfl]
    rfl
  have hlast := isSome_declarations_after hdeclared rest
  rw [← after_append] at hlast
  obtain ⟨type', htype'⟩ := Option.isSome_iff_exists.1 hlast
  exact ⟨type', get?_declarations_after_iff.1 htype'⟩

/-- Only a statement that goes by its position takes away the type that an earlier one has given. -/
theorem SucceedsAt.exists_positional (h : s.SucceedsAt cs pre name type)
    (hnot : ¬ s.LastType cs name type) :
    ∃ pre' type', s.SucceedsAt cs pre' name type' ∧ type' ≠ type
      ∧ (s.after pre').positionalName = some name := by
  obtain ⟨type', hlast⟩ := h.exists_lastType
  have hne : type' ≠ type := by
    rintro rfl
    exact hnot hlast
  rcases hlast with ⟨pre', hat', hmax⟩ | ⟨-, hnone⟩
  · refine ⟨pre', type', hat', hne, ?_⟩
    obtain ⟨d', -, hd'⟩ := succeedsAt_iff.1 hat'
    -- When the last one succeeds the name is declared already, so it was not asked for.
    have hlt : pre.length < pre'.length :=
      lt_of_le_of_ne (hmax pre type h) fun heq => hne (hat'.type_eq h heq.symm)
    have htaken := isSome_of_succeedsAt_of_length_lt h hat' hlt
    rcases positional_or_free_of_declares hd' with hpos | hfree
    · exact hpos
    · rw [hfree] at htaken
      exact absurd htaken (by simp)
  · exact absurd h (hnone pre type)

/-! ## Statements of the game -/

/-- A statement that is recorded as a success is declared. -/
theorem declares_of_recorded {d : Directive} {st : Statement} (h : s.recorded d = some st)
    (hsuccess : st.success = true) :
    s.declares d = some (st.theoremName, st.signature.render) := by
  cases d with
  | declareStatement e =>
    obtain ⟨l, hl, h⟩ := Option.bind_eq_some_iff.1 h
    cases hst : l.statement with
    | some st' =>
      rw [hst] at h
      exact absurd h (by simp)
    | none =>
      rw [hst] at h
      obtain rfl := Option.some.inj h
      have haccepted : e.accepted = true := hsuccess
      simp only [declares, hl, hst, Option.bind_some, Option.isNone_none, haccepted, Bool.and_self,
        if_true]
      rfl
  | _ => exact absurd h (by simp [recorded])

/-- A statement that is there after a command was there before, apart from its preview, or the
command has recorded it. -/
theorem statementAt_run_cases {world : String} {index : Int} {st : Statement}
    (h : (s.run c).session.statementAt world index = some st) :
    (∃ st', s.statementAt world index = some st' ∧ st'.cleared = st.cleared)
      ∨ ∃ d, c = .directive d ∧ s.recorded d = some st := by
  have hcompile : s.compile.session.statementAt world index = some st →
      ∃ st', s.statementAt world index = some st' ∧ st'.cleared = st.cleared := by
    intro h
    have hcleared := s.cleared_statementAt_compile world index
    rw [h] at hcleared
    exact Option.map_eq_some_iff.1 hcleared.symm
  cases c with
  | directive d =>
    by_cases hd : d = .compile
    · subst hd
      exact .inl (hcompile h)
    · have hauthor := statementAt_author { s with bundle := none } d world index
      rw [← process_eq_author s hd, recorded_dropBundle] at hauthor
      rw [run, hauthor] at h
      split at h
      · rcases Option.or_eq_some_iff.1 h with hrecorded | ⟨-, hst⟩
        · exact .inr ⟨d, rfl, hrecorded⟩
        · exact .inl ⟨st, hst, rfl⟩
      · exact .inl ⟨st, h, rfl⟩
  | other v => exact .inl ⟨st, h, rfl⟩
  | compile => exact .inl (hcompile h)
  | reset => exact absurd (h.symm.trans (statementAt_start _ _ world index)) (by simp)

/-- A statement of the game that was accepted has succeeded in the run. -/
theorem exists_succeedsAt (settings : Settings) (ds : Declarations) (cs : List Command)
    {world : String} {index : Int} {st : Statement}
    (hst : ((start settings ds).after cs).statementAt world index = some st)
    (hsuccess : st.success = true) :
    ∃ pre, (start settings ds).SucceedsAt cs pre st.theoremName st.signature.render := by
  induction cs using List.reverseRecOn generalizing st with
  | nil => exact absurd (hst.symm.trans (statementAt_start settings ds world index)) (by simp)
  | append_singleton cs c ih =>
    rw [after_concat] at hst
    rcases statementAt_run_cases hst with ⟨st', hst', hcleared⟩ | ⟨d, rfl, hrecorded⟩
    · have hname : st'.theoremName = st.theoremName := (congrArg Statement.theoremName hcleared :)
      have hsignature : st'.signature = st.signature := (congrArg Statement.signature hcleared :)
      have hsuccess' : st'.success = true := (congrArg Statement.success hcleared :).trans hsuccess
      obtain ⟨pre, hat⟩ := ih hst' hsuccess'
      rw [hname, hsignature] at hat
      exact ⟨pre, succeedsAt_concat_iff.2 (.inl hat)⟩
    · exact ⟨cs, succeedsAt_concat_iff.2
        (.inr ⟨rfl, d, rfl, declares_of_recorded hrecorded hsuccess⟩)⟩

/-! ## Compiling -/

/-- What a compilation has said about a level. -/
def warningsAt (s : Session) (world : String) (index : Int) : List Message :=
  (s.messages.filter (·.stage = .compiling)).filter (·.location.isAt world index)

/-- A statement that a compilation leaves was there before it. Its preview is what is found under
its name, and there is a warning if nothing is found. -/
theorem shown_after_compile (hs : s.Settled) (hcompile : s.compile.failure = none) {world : String}
    {index : Int} {st : Statement}
    (hst : s.compile.session.statementAt world index = some st) :
    (∃ preview, s.statementAt world index = some { st with preview := preview })
      ∧ st.preview = s.declarations.shownOr s.settings.notFoundText st.theoremName
      ∧ s.compile.session.warningsAt world index
        = if (s.declarations.get? st.theoremName).isNone then
            [(Remark.undeclaredStatement st.theoremName).message .compiling
              ⟨some s.game.name, some world, some index⟩]
          else [] := by
  rw [statementAt_compile hs hcompile] at hst
  obtain ⟨st', hst', rfl⟩ := Option.map_eq_some_iff.1 hst
  refine ⟨⟨st'.preview, hst'⟩, rfl, ?_⟩
  obtain ⟨bundle, hok⟩ := Session.failure_compile_eq_none_iff.1 hcompile
  obtain ⟨l, hl, hlst⟩ := statementAt_eq_some_iff.1 hst'
  have hindex := (hs.placed.level_place world index l hl).2
  rw [warningsAt, compiling_messages_compile, hcompile, Option.isNone_none, if_pos rfl,
    filter_compilation hs hok, game_withdraw, Game.mapLevels_eq_mapLevelsAt,
    Game.level?_mapLevelsAt, hl, Option.map_some, Option.elim_some, Level.previewWarning]
  simp only [Level.withdrawn, hlst, Declarations.isNone_rendered?, hindex]

section Shown

variable {world : String} {index : Int} {st : Statement} (hs : s.Settled)
  (hcompile : s.compile.failure = none)
  (hst : s.compile.session.statementAt world index = some st)
include hs hcompile hst

/-- A statement whose name is declared is shown by the declaration, and nothing is said. -/
theorem shown_of_declared (h : s.declarations.get? st.theoremName = some type) :
    st.preview = some (renderDeclaration st.theoremName type)
      ∧ s.compile.session.warningsAt world index = [] := by
  obtain ⟨-, hpreview, hwarnings⟩ := shown_after_compile hs hcompile hst
  rw [h] at hwarnings
  rw [hpreview, Declarations.shownOr_of_get?_eq_some h]
  exact ⟨rfl, hwarnings⟩

/-- A statement whose name is not declared is not found, and there is one warning about this. -/
theorem shown_of_undeclared (h : s.declarations.get? st.theoremName = none) :
    st.preview = some s.settings.notFoundText
      ∧ ∃ m, s.compile.session.warningsAt world index = [m] ∧ m.severity = .warning := by
  obtain ⟨-, hpreview, hwarnings⟩ := shown_after_compile hs hcompile hst
  rw [h] at hwarnings
  rw [hpreview, Declarations.shownOr_of_get?_eq_none h]
  exact ⟨rfl, _, hwarnings, rfl⟩

end Shown

/-! ## What levels show -/

/-- A level shows its own statement: the declaration if it was accepted, and otherwise the text for
what is not found, with one warning about the level. -/
structure ShowsOwn (s : Session) (world : String) (index : Int) (st : Statement) : Prop where
  accepted : st.success = true →
    st.preview = some (renderDeclaration st.theoremName st.signature.render)
  rejected : st.success = false →
    st.preview = some s.settings.notFoundText
      ∧ ∃ m, s.warningsAt world index = [m] ∧ m.severity = .warning

variable {settings : Settings} {ds : Declarations} {world : String} {index : Int} {st : Statement}

/-- A statement that was accepted is shown by its own declaration exactly if the last statement that
has succeeded under its name has the same type. -/
theorem preview_eq_own_iff (hcompile : ((start settings ds).after cs).compile.failure = none)
    (hst : ((start settings ds).after cs).compile.session.statementAt world index = some st)
    (hsuccess : st.success = true) :
    st.preview = some (renderDeclaration st.theoremName st.signature.render)
      ↔ (start settings ds).LastType cs st.theoremName st.signature.render := by
  have hs := settled_after settings ds cs
  constructor
  · intro hown
    obtain ⟨⟨preview, hst'⟩, -⟩ := shown_after_compile hs hcompile hst
    obtain ⟨pre, hat⟩ := exists_succeedsAt settings ds cs hst' hsuccess
    obtain ⟨type, htype⟩ := hat.exists_lastType
    -- The type is that of a signature, so it can be told from what is shown.
    obtain ⟨signature, rfl⟩ := htype.exists_signature hat
    have hshown := (shown_of_declared hs hcompile hst (get?_declarations_after_iff.2 htype)).1
    rw [← render_inj_of_renderDeclaration (Option.some.inj (hshown.symm.trans hown))]
    exact htype
  · intro htype
    exact (shown_of_declared hs hcompile hst (get?_declarations_after_iff.2 htype)).1

/-- **What is shown of a statement** after a compilation that succeeds. A level shows its own
statement exactly if, in case it was accepted, the last statement that has succeeded under its name
has its type and, in case it was rejected, its name was never declared. If it was accepted and is
not shown, a later statement that goes by its position has succeeded under its name with another
type. Whatever type the name has, the name is shown with this type and nothing is said. -/
theorem showsOwn_iff (hcompile : ((start settings ds).after cs).compile.failure = none)
    (hst : ((start settings ds).after cs).compile.session.statementAt world index = some st) :
    let s₀ := start settings ds
    let t := (s₀.after cs).compile.session
    (t.ShowsOwn world index st
        ↔ (st.success = true → s₀.LastType cs st.theoremName st.signature.render)
          ∧ (st.success = false → ∀ type, ¬ s₀.LastType cs st.theoremName type))
      ∧ (st.success = true → ¬ t.ShowsOwn world index st →
          ∃ pre type, s₀.SucceedsAt cs pre st.theoremName type ∧ type ≠ st.signature.render
            ∧ (s₀.after pre).positionalName = some st.theoremName)
      ∧ ∀ type, s₀.LastType cs st.theoremName type →
          st.preview = some (renderDeclaration st.theoremName type)
            ∧ t.warningsAt world index = [] := by
  intro s₀ t
  have hs : (s₀.after cs).Settled := settled_after settings ds cs
  have hsettings : t.settings = (s₀.after cs).settings := (s₀.after cs).run_settings .compile
  have hknown : ∀ type, s₀.LastType cs st.theoremName type →
      st.preview = some (renderDeclaration st.theoremName type)
        ∧ t.warningsAt world index = [] :=
    fun type htype => shown_of_declared hs hcompile hst (get?_declarations_after_iff.2 htype)
  refine ⟨⟨fun h => ⟨?_, ?_⟩, fun h => ⟨?_, ?_⟩⟩, fun hsuccess hnot => ?_, hknown⟩
  · exact fun hsuccess => (preview_eq_own_iff hcompile hst hsuccess).1 (h.accepted hsuccess)
  · intro hfailed type htype
    obtain ⟨-, m, hm, -⟩ := h.rejected hfailed
    rw [(hknown type htype).2] at hm
    exact absurd hm (by simp)
  · exact fun hsuccess => (preview_eq_own_iff hcompile hst hsuccess).2 (h.1 hsuccess)
  · intro hfailed
    have hget : (s₀.after cs).declarations.get? st.theoremName = none :=
      Option.eq_none_iff_forall_ne_some.2 fun type hget =>
        h.2 hfailed type (get?_declarations_after_iff.1 hget)
    rw [hsettings]
    exact shown_of_undeclared hs hcompile hst hget
  · obtain ⟨⟨preview, hst'⟩, -⟩ := shown_after_compile hs hcompile hst
    obtain ⟨pre, hat⟩ := exists_succeedsAt settings ds cs hst' hsuccess
    refine hat.exists_positional fun hlast => hnot ⟨fun _ => (hknown _ hlast).1, fun hfailed => ?_⟩
    exact absurd (hsuccess.symm.trans hfailed) (by simp)

/-- The first statement has the name by position of the third level, where a statement without a
name succeeds. The second one is rejected, and the fourth one succeeds under its name. -/
def takenPreviews : List Command := [
  .directive (.addWorld worldW),
  .directive (.setLevelIndex 1),
  .directive (.declareStatement (plainExercise (some "MyGame.W.level3") propP)),
  .directive (.setLevelIndex 2),
  .directive (.declareStatement
    { plainExercise (some "foo") propP with script := [.tactic "fail"] }),
  .directive (.setLevelIndex 3),
  .directive (.declareStatement (plainExercise none propQ)),
  .directive (.setLevelIndex 4),
  .directive (.declareStatement (plainExercise (some "foo") propQ))]

/-- The third level shows its own statement. -/
theorem showsOwn_takenPreviews :
    ((start .standard .empty).after takenPreviews).compile.failure = none
      ∧ ∃ st, ((start .standard .empty).after takenPreviews).compile.session.statementAt "W" 3
          = some st
        ∧ ((start .standard .empty).after takenPreviews).compile.session.ShowsOwn "W" 3 st := by
  have hcompile : ((start .standard .empty).after takenPreviews).compile.failure = none := by
    decide +kernel
  have hlevel : (((start .standard .empty).after takenPreviews).compile.session.statementAt "W"
      3).map (fun st => (st.theoremName, st.success, st.signature.render))
        = some ("MyGame.W.level3", true, ": Q") := by
    decide +kernel
  obtain ⟨st, hst, heq⟩ := Option.map_eq_some_iff.1 hlevel
  simp only [Prod.mk.injEq] at heq
  obtain ⟨hname, hsuccess, htype⟩ := heq
  refine ⟨hcompile, st, hst, (showsOwn_iff hcompile hst).1.2
    ⟨fun _ => ?_, fun hfailed => absurd (hsuccess.symm.trans hfailed) (by simp)⟩⟩
  rw [hname, htype, ← get?_declarations_after_iff]
  decide +kernel

/-- The first level shows the statement of the third one in place of its own. The second level shows
the statement of the fourth one, and there is no warning that its own was rejected. -/
theorem shown_of_others :
    ((start .standard .empty).after takenPreviews).compile.failure = none
      ∧ (∃ st, ((start .standard .empty).after takenPreviews).compile.session.statementAt "W" 1
            = some st
          ∧ st.success = true ∧ st.preview = some "MyGame.W.level3 : Q"
          ∧ ¬ ((start .standard .empty).after takenPreviews).compile.session.ShowsOwn "W" 1 st)
      ∧ ∃ st, ((start .standard .empty).after takenPreviews).compile.session.statementAt "W" 2
            = some st
          ∧ st.success = false ∧ st.preview = some "foo : Q"
          ∧ ¬ ((start .standard .empty).after takenPreviews).compile.session.ShowsOwn "W" 2 st := by
  have hfirst : (((start .standard .empty).after takenPreviews).compile.session.statementAt "W"
      1).map (fun st => (st.success, st.preview,
        renderDeclaration st.theoremName st.signature.render))
        = some (true, some "MyGame.W.level3 : Q", "MyGame.W.level3 : P") := by
    decide +kernel
  have hsecond : (((start .standard .empty).after takenPreviews).compile.session.statementAt "W"
      2).map (fun st => (st.success, st.preview))
        = some (false, some "foo : Q") := by
    decide +kernel
  obtain ⟨st, hst, heq⟩ := Option.map_eq_some_iff.1 hfirst
  obtain ⟨st', hst', heq'⟩ := Option.map_eq_some_iff.1 hsecond
  simp only [Prod.mk.injEq] at heq heq'
  obtain ⟨hsuccess, hpreview, hown⟩ := heq
  obtain ⟨hfailed, hpreview'⟩ := heq'
  refine ⟨by decide +kernel, ⟨st, hst, hsuccess, hpreview, fun h => ?_⟩,
    st', hst', hfailed, hpreview', fun h => ?_⟩
  · have hshown := h.accepted hsuccess
    rw [hpreview, hown] at hshown
    exact absurd hshown (by decide)
  · have hshown := (h.rejected hfailed).1
    rw [hpreview'] at hshown
    exact absurd hshown (by decide +kernel)

end Session
end Curriculum
