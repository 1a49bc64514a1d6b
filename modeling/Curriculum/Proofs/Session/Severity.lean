import Curriculum.Proofs.Session.Remarks
import Curriculum.Proofs.Session.Statements

/-!
# How serious it is what directives say

What a directive says is an error in two cases: the directive is ignored because
it is out of place, or it records a statement that is not accepted,
`exists_error_remarks_iff`. Three things are warned about at least: a
placeholder in the catalogue (`hasPlaceholder_author`), a statement whose name
is taken, and a proof that is left incomplete (`exists_warning_remarksOn`).
-/

namespace Curriculum

/-! ## The catalogue -/

namespace Catalogue

/-- The catalogue has a placeholder for some name. -/
def HasPlaceholder (c : Catalogue) : Prop :=
  ∃ kind name item, c.lookup kind name = some item ∧ item.placeholder = true

theorem hasPlaceholder_insert {c : Catalogue} {key : Kind × String} {item : Item}
    (h : HasPlaceholder ⟨c.entries.insert key item⟩) :
    c.HasPlaceholder ∨ item.placeholder = true := by
  obtain ⟨kind, name, item', hitem, hplaceholder⟩ := h
  rw [lookup, OrderedMap.get?_insert] at hitem
  split at hitem
  · rw [← Option.some.inj hitem] at hplaceholder
    exact .inr hplaceholder
  · exact .inl ⟨kind, name, item', hitem, hplaceholder⟩

theorem severity_register {c : Catalogue} {doc : Doc} {r : Remark}
    (h : r ∈ (c.register doc).2.toList) : r.severity ≠ .error := by
  unfold register at h
  split at h
  · rw [List.mem_singleton.1 h]
    simp [Remark.severity]
  · exact absurd h List.not_mem_nil

theorem hasPlaceholder_register {c : Catalogue} {doc : Doc}
    (h : (c.register doc).1.HasPlaceholder) : c.HasPlaceholder := by
  unfold register at h
  split at h
  · exact h
  · exact (hasPlaceholder_insert h).resolve_right (by simp [Doc.item])

theorem severity_mention {c : Catalogue} {kind : Kind} {name : NonEmptyText}
    {description : Option String} {r : Remark}
    (h : r ∈ (c.mention kind name description).2.toList) : r.severity ≠ .error := by
  unfold mention at h
  split at h
  · exact absurd h List.not_mem_nil
  · split at h <;> rw [List.mem_singleton.1 h] <;> simp [Remark.severity]

/-- A name that gets a placeholder is warned about. -/
theorem hasPlaceholder_mention {c : Catalogue} {kind : Kind} {name : NonEmptyText}
    {description : Option String} (h : (c.mention kind name description).1.HasPlaceholder) :
    c.HasPlaceholder
      ∨ ∃ r ∈ (c.mention kind name description).2.toList, r.severity = .warning := by
  unfold mention at h ⊢
  split
  · next hcontains =>
    rw [if_pos hcontains] at h
    exact .inl h
  · next hcontains =>
    rw [if_neg hcontains] at h
    cases description with
    | none => exact .inr ⟨_, List.mem_singleton_self _, rfl⟩
    | some text =>
      exact .inl ((hasPlaceholder_insert h).resolve_right (by simp [Doc.item]))

theorem severity_remarksOnNames {c : Catalogue} {kind : Kind} {names : List String} {r : Remark}
    (h : r ∈ c.remarksOnNames kind names) : r.severity ≠ .error := by
  induction names generalizing c with
  | nil => exact absurd h List.not_mem_nil
  | cons name rest ih =>
    rw [remarksOnNames] at h
    split at h
    · rcases List.mem_append.1 h with h | h
      · exact severity_mention h
      · exact ih h
    · exact absurd h List.not_mem_nil

end Catalogue

namespace Session

theorem hasPlaceholder_mentionAll {s : Session} {kind : Kind} {names : List String}
    (h : (s.mentionAll kind names).session.catalogue.HasPlaceholder) :
    s.catalogue.HasPlaceholder
      ∨ ∃ r ∈ s.catalogue.remarksOnNames kind names, r.severity = .warning := by
  induction names generalizing s with
  | nil => exact .inl h
  | cons name rest ih =>
    rw [mentionAll] at h
    rw [Catalogue.remarksOnNames]
    split
    · next hname =>
      rw [dif_pos hname] at h
      simp only [List.mem_append]
      rcases ih h with h | ⟨r, hr, hwarning⟩
      · rw [catalogue_mention] at h
        rcases Catalogue.hasPlaceholder_mention h with h | ⟨r, hr, hwarning⟩
        · exact .inl h
        · exact .inr ⟨r, .inl hr, hwarning⟩
      · rw [catalogue_mention] at hr
        exact .inr ⟨r, .inr hr, hwarning⟩
    · next hname =>
      rw [dif_neg hname] at h
      exact .inl h

theorem hasPlaceholder_atLevel {s : Session} {what : String} {act : Level → Outcome}
    {remarks : Level → List Remark}
    (hact : ∀ l, s.currentLevel = some l → (act l).session.catalogue.HasPlaceholder →
      s.catalogue.HasPlaceholder ∨ ∃ r ∈ remarks l, r.severity = .warning) :
    (s.atLevel what act).session.catalogue.HasPlaceholder →
      s.catalogue.HasPlaceholder
        ∨ ∃ r ∈ s.remarksAtLevel what remarks, r.severity = .warning :=
  atLevel_says (P := fun t rs => t.catalogue.HasPlaceholder →
      s.catalogue.HasPlaceholder ∨ ∃ r ∈ rs, r.severity = .warning)
    .inl (fun r h => .inl (catalogue_report s r ▸ h)) hact

theorem hasPlaceholder_recordStatement {s : Session} {l : Level} {e : Exercise}
    (h : (s.recordStatement l e).catalogue.HasPlaceholder) :
    s.catalogue.HasPlaceholder ∨ ∃ r ∈ s.remarksOn l e, r.severity = .warning := by
  rw [recordStatement] at h
  rw [remarksOn]
  dsimp only at h ⊢
  generalize resolveName s.declarations.get? e.name s.game.name l.worldId l.index = resolution
    at h ⊢
  cases hname : resolution.docName with
  | none =>
    rw [hname] at h
    dsimp only at h
    rw [(s.says_checked _ _ _ _).2] at h
    exact .inl h
  | some name =>
    rw [hname] at h
    dsimp only at h
    rw [catalogue_mention, (s.says_checked _ _ _ _).2] at h
    rcases Catalogue.hasPlaceholder_mention h with h | ⟨r, hr, hwarning⟩
    · exact .inl h
    · exact .inr ⟨r, List.mem_append_right _ hr, hwarning⟩

/-- **Placeholders.** A directive that leaves a placeholder has found one or warns about it. -/
theorem hasPlaceholder_author {s : Session} {d : Directive}
    (h : (s.author d).session.catalogue.HasPlaceholder) :
    s.catalogue.HasPlaceholder ∨ ∃ r ∈ s.remarks d, r.severity = .warning := by
  cases d with
  | registerDoc doc =>
    have hcatalogue : (s.registerDoc doc).catalogue = (s.catalogue.register doc).1 :=
      report?_keeps (F := Session.catalogue) catalogue_report _ _
    replace h : (s.registerDoc doc).catalogue.HasPlaceholder := h
    rw [hcatalogue] at h
    exact .inl (Catalogue.hasPlaceholder_register h)
  | declareInventory listing kind names =>
    refine hasPlaceholder_atLevel (fun l _ hl => hasPlaceholder_mentionAll ?_) h
    generalize s.mentionAll kind names = o at hl ⊢
    obtain ⟨t, failure⟩ := o
    cases failure with
    | some failure => exact hl
    | none =>
      dsimp only [done] at hl
      rwa [catalogue_modifyCurrentLevel] at hl
  | declareStatement e =>
    refine hasPlaceholder_atLevel (fun l _ hl => ?_) h
    cases hst : l.statement with
    | some st =>
      rw [hst] at hl
      exact .inl (catalogue_report s _ ▸ hl)
    | none =>
      rw [hst] at hl
      exact hasPlaceholder_recordStatement hl
  | declareHint step => exact .inl (catalogue_report s _ ▸ h)
  | setLevelIndex index =>
    obtain ⟨game, cursor, heq⟩ := s.setLevelIndex_eq index
    replace h : (s.setLevelIndex index).session.catalogue.HasPlaceholder := h
    rw [heq] at h
    exact .inl h
  | setText field text =>
    obtain ⟨game, heq⟩ := s.setText_eq field text
    replace h : (s.setText field text).catalogue.HasPlaceholder := h
    rw [heq] at h
    exact .inl h
  | setGame | addWorld | addPath | compile => exact .inl h

/-! ## Errors -/

/-- A directive is out of place: a part of a level outside of levels, a second statement, a hint
outside of scripts. -/
def Ignores (s : Session) : Directive → Prop
  | .declareInventory .. => s.currentWorld.isSome ∧ s.currentLevel = none
  | .declareStatement _ =>
    s.currentWorld.isSome ∧ s.currentLevel = none
      ∨ ∃ l, s.currentLevel = some l ∧ l.statement.isSome
  | .declareHint _ => True
  | _ => False

/-- A directive records a statement that is not accepted. -/
def RecordsFailure (s : Session) (d : Directive) : Prop :=
  ∃ st, s.recorded d = some st ∧ st.success = false

theorem exists_error_remarksAtLevel_iff {s : Session} {what : String}
    {remarks : Level → List Remark} :
    (∃ r ∈ s.remarksAtLevel what remarks, r.severity = .error)
      ↔ s.currentWorld.isSome ∧ s.currentLevel = none
        ∨ ∃ l, s.currentLevel = some l ∧ ∃ r ∈ remarks l, r.severity = .error := by
  unfold remarksAtLevel
  cases hw : s.currentWorld with
  | none => simp [currentLevel, hw]
  | some w =>
    cases hl : s.currentLevel with
    | none => simp [Remark.severity]
    | some l => simp

theorem severity_remark {r : NameResolution} {remark : Remark} (h : remark ∈ r.remark.toList) :
    remark.severity = .warning := by
  unfold NameResolution.remark at h
  split at h
  · rw [List.mem_singleton.1 h]
    rfl
  · exact absurd h List.not_mem_nil

/-- Recording a statement says an error exactly if the statement is not accepted. -/
theorem exists_error_remarksOn_iff {s : Session} {l : Level} {e : Exercise} :
    (∃ r ∈ s.remarksOn l e, r.severity = .error) ↔ e.accepted = false := by
  rw [← Checker.exists_error_said_iff e, ← (Checker.diagnostics_elaborate s.declarations
    (resolveName s.declarations.get? e.name s.game.name l.worldId l.index).theoremName e.signature
    e.script).1, remarksOn]
  constructor
  · intro h
    obtain ⟨r, hr, herror⟩ := h
    rcases List.mem_append.1 hr with hr | hr
    · rcases List.mem_append.1 hr with hr | hr
      · exact absurd ((severity_remark hr).symm.trans herror) (by simp)
      · obtain ⟨m, hm, rfl⟩ := List.mem_map.1 hr
        exact ⟨m, hm, herror⟩
    · split at hr
      · exact absurd herror (Catalogue.severity_mention hr)
      · exact absurd hr List.not_mem_nil
  · intro h
    obtain ⟨m, hm, herror⟩ := h
    exact ⟨.fromChecker m.1 m.2, List.mem_append_left _ (List.mem_append_right _
      (List.mem_map.2 ⟨m, hm, rfl⟩)), herror⟩

/-- **Errors.** What a directive says is an error exactly if the directive is ignored or records a
statement that is not accepted. -/
theorem exists_error_remarks_iff {s : Session} {d : Directive} :
    (∃ r ∈ s.remarks d, r.severity = .error) ↔ s.Ignores d ∨ s.RecordsFailure d := by
  cases d with
  | registerDoc doc =>
    simp only [remarks, Ignores, RecordsFailure, recorded, false_or, reduceCtorEq, false_and,
      exists_false, iff_false]
    intro h
    obtain ⟨r, hr, herror⟩ := h
    exact Catalogue.severity_register hr herror
  | declareInventory listing kind names =>
    rw [remarks, exists_error_remarksAtLevel_iff]
    simp only [Ignores, RecordsFailure, recorded, reduceCtorEq, false_and, exists_false, or_false]
    refine or_iff_left fun h => ?_
    obtain ⟨l, -, r, hr, herror⟩ := h
    exact Catalogue.severity_remarksOnNames hr herror
  | declareStatement e =>
    rw [remarks, exists_error_remarksAtLevel_iff, Ignores, or_assoc]
    refine or_congr_right ?_
    cases hl : s.currentLevel with
    | none => simp [RecordsFailure, recorded, hl]
    | some l =>
      cases hst : l.statement with
      | some st => simp [RecordsFailure, recorded, hl, hst, Remark.severity]
      | none =>
        simp [RecordsFailure, recorded, hl, hst, exists_error_remarksOn_iff, statementOf]
  | declareHint step => simp [remarks, Ignores, Remark.severity]
  | _ => simp [remarks, Ignores, RecordsFailure, recorded]

/-! ## Warnings -/

/-- **Warnings.** Recording a statement warns if its name is taken, and if it is accepted although
its proof is left incomplete. -/
theorem exists_warning_remarksOn {s : Session} {l : Level} {e : Exercise}
    (h : (∃ name, e.name = some name ∧ name ≠ "" ∧ s.declarations.get? name ≠ none)
      ∨ e.accepted = true ∧ ∃ text, .tactic text ∈ e.script ∧ Text.strip text = "sorry") :
    ∃ r ∈ s.remarksOn l e, r.severity = .warning := by
  rw [remarksOn]
  rcases h with ⟨name, hname, hne, htaken⟩ | ⟨haccepted, text, htext, hskip⟩
  · obtain ⟨type, htype⟩ := Option.ne_none_iff_exists'.1 htaken
    have hremark : (resolveName s.declarations.get? e.name s.game.name l.worldId l.index).remark
        = some (.nameTaken name type (defaultTheoremName s.game.name l.worldId l.index)) := by
      simp only [resolveName, hname, hne, ne_eq, not_false_eq_true, dif_pos, htype]
      rfl
    refine ⟨.nameTaken name type (defaultTheoremName s.game.name l.worldId l.index),
      List.mem_append_left _ (List.mem_append_left _ ?_), rfl⟩
    rw [hremark]
    exact List.mem_singleton_self _
  · obtain ⟨m, hm, hwarning⟩ := Checker.exists_warning_said haccepted htext hskip
    rw [← (Checker.diagnostics_elaborate s.declarations
      (resolveName s.declarations.get? e.name s.game.name l.worldId l.index).theoremName e.signature
      e.script).1] at hm
    exact ⟨.fromChecker m.1 m.2, List.mem_append_left _ (List.mem_append_right _
      (List.mem_map.2 ⟨m, hm, rfl⟩)), hwarning⟩

end Session
end Curriculum
