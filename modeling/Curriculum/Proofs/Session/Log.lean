import Curriculum.Proofs.Session.Run

/-!
# What is said when a statement is recorded

Remarks are added at the end of the log, all of them about the current place:
`Says` is that relation, and it goes together with putting steps one after
another. `says_recordStatement` lists what recording a statement says: that its
name is taken, what the checker has to report, and whether the inventory lacks
its documentation.
-/

namespace Curriculum.Session

/-- Remarks about the current place are added to the log, and the place stays the same. -/
structure Says (s t : Session) (remarks : List Remark) : Prop where
  messages : t.messages = s.messages ++ remarks.map (·.message .authoring s.location)
  location : t.location = s.location

theorem Says.trans {s t u : Session} {remarks remarks' : List Remark} (h : s.Says t remarks)
    (h' : t.Says u remarks') : s.Says u (remarks ++ remarks') where
  messages := by
    rw [h'.messages, h.messages, h.location, List.map_append, List.append_assoc]
  location := h'.location.trans h.location

/-- Nothing is said by what changes neither the log nor the place. -/
theorem says_nil {s t : Session} (hmessages : t.messages = s.messages)
    (hlocation : t.location = s.location) : s.Says t [] where
  messages := by rw [hmessages, List.map_nil, List.append_nil]
  location := hlocation

theorem says_report (s : Session) (r : Remark) : s.Says (s.report r) [r] := by
  obtain ⟨worlds, h⟩ := s.report_eq r
  rw [h]
  exact ⟨rfl, rfl⟩

theorem says_report? (s : Session) (r : Option Remark) : s.Says (s.report? r) r.toList := by
  cases r with
  | none => exact says_nil rfl rfl
  | some r => exact s.says_report r

theorem says_modifyCurrentLevel (s : Session) (f : Level → Level) :
    s.Says (s.modifyCurrentLevel f) [] := by
  obtain ⟨worlds, h⟩ := s.modifyCurrentLevel_eq f
  rw [h]
  exact says_nil rfl rfl

/-- A name is mentioned after something else that has left the catalogue. -/
theorem Says.mention {s t : Session} {remarks : List Remark} (h : s.Says t remarks)
    (hcatalogue : t.catalogue = s.catalogue) (kind : Kind) (name : NonEmptyText)
    (description : Option String) :
    s.Says (t.mention kind name description)
      (remarks ++ (s.catalogue.mention kind name description).2.toList) := by
  have hmention := says_report?
    { t with catalogue := (t.catalogue.mention kind name description).1 }
    (t.catalogue.mention kind name description).2
  rw [← hcatalogue]
  exact h.trans ⟨hmention.messages, hmention.location⟩

theorem says_reports (s : Session) (l : List (Severity × String)) :
    s.Says (s.reports l) (l.map fun m => .fromChecker m.1 m.2) := by
  induction l generalizing s with
  | nil => exact says_nil rfl rfl
  | cons m rest ih => exact (s.says_report _).trans (ih _)

/-! ## The catalogue stays -/

theorem catalogue_report (s : Session) (r : Remark) : (s.report r).catalogue = s.catalogue := by
  obtain ⟨worlds, h⟩ := s.report_eq r
  rw [h]

theorem catalogue_modifyCurrentLevel (s : Session) (f : Level → Level) :
    (s.modifyCurrentLevel f).catalogue = s.catalogue := by
  obtain ⟨worlds, h⟩ := s.modifyCurrentLevel_eq f
  rw [h]

/-! ## Statements -/

/-- What is said about a statement at a level. -/
def remarksOn (s : Session) (l : Level) (e : Exercise) : List Remark :=
  let resolution := resolveName s.declarations.get? e.name s.game.name l.worldId l.index
  let verdict := Checker.elaborate s.declarations resolution.theoremName e.signature e.script
  resolution.remark.toList
    ++ (plainOf verdict.diagnostics).map (fun m => .fromChecker m.1 m.2)
    ++ match resolution.docName with
      | some name => (s.catalogue.mention .lemmas name e.description).2.toList
      | none => []

/-- The remarks before a statement is looked up in the inventory, and what is kept meanwhile. -/
theorem says_checked (s : Session) (r : Option Remark) (ds : Declarations)
    (l : List (Severity × String)) (f : Level → Level) :
    s.Says ((reports { s.report? r with declarations := ds } l).modifyCurrentLevel f)
        (r.toList ++ l.map fun m => .fromChecker m.1 m.2)
      ∧ ((reports { s.report? r with declarations := ds } l).modifyCurrentLevel f).catalogue
        = s.catalogue := by
  have hname : s.Says { s.report? r with declarations := ds } r.toList :=
    ⟨(s.says_report? r).messages, (s.says_report? r).location⟩
  constructor
  · have h := (hname.trans (says_reports _ l)).trans (says_modifyCurrentLevel _ f)
    rwa [List.append_nil] at h
  · rw [catalogue_modifyCurrentLevel, reports_keeps (F := Session.catalogue) catalogue_report]
    exact report?_keeps (F := Session.catalogue) catalogue_report s r

theorem says_recordStatement (s : Session) (l : Level) (e : Exercise) :
    s.Says (s.recordStatement l e) (s.remarksOn l e) := by
  rw [recordStatement, remarksOn]
  dsimp only
  cases (resolveName s.declarations.get? e.name s.game.name l.worldId l.index).docName with
  | some name =>
    exact (s.says_checked _ _ _ _).1.mention (s.says_checked _ _ _ _).2 .lemmas name e.description
  | none =>
    rw [List.append_nil]
    exact (s.says_checked _ _ _ _).1

end Curriculum.Session
