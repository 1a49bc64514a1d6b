import Curriculum.Proofs.Form.Marks
import Curriculum.Proofs.Schema.Restoring

/-!
# Directives are read back

Every directive is restored from its written form. The parts come first, from the
inside out: signatures, contexts and hint steps are records of restored parts, a
script step is read as a text or as a hint and the other of the two cannot read
it. A written directive has the mark of its variant, so it is enough that this
variant reads it back (`readAs_write`).

Main statement: `read_write`.
-/

namespace Curriculum

open Schema Reader Form

@[simp] theorem Kind.restores : Restores Kind.read Kind.write :=
  restores_oneOf Kind.ofLabel?_label

/-! ## Records of exercises -/

@[simp] theorem Signature.restores : Restores Signature.read Signature.write := by
  intro s
  simp [Signature.read, Signature.write]

@[simp] theorem HintContext.restores : Restores HintContext.read HintContext.write := by
  intro c
  simp [HintContext.read, HintContext.write]

@[simp] theorem HintStep.restores : Restores HintStep.read HintStep.write := by
  intro s
  simp [HintStep.read, HintStep.write]

@[simp] theorem ScriptStep.restores : Restores ScriptStep.read ScriptStep.write := by
  intro step
  cases step with
  | tactic s =>
    refine (value?_choose [] _ fun variant hvariant => ?_).trans (by simp [write])
    rw [List.mem_singleton.1 hvariant]
    rfl
  | hint step =>
    refine (value?_choose [_] [] fun variant hvariant => ?_).trans (by simp [write])
    rw [List.mem_singleton.1 hvariant]
    rfl

/-! ## Directives -/

namespace Directive

@[simp] theorem restores_text? : Restores (nullable text) ofText? :=
  restores_nullable restores_text fun _ => nofun

/-- The variant of a directive reads it back. -/
theorem readAs_write (d : Directive) : (readAs d.tag d.write).value? = some d := by
  cases d with
  | setText field s => cases field <;> simp [readAs, tag, Tag.ofTextField, write, fields]
  | declareInventory listing kind names =>
    cases listing <;>
      simp [readAs, tag, Tag.ofListing, write, fields, restores_list restores_text]
  | registerDoc doc => simp [readAs, Doc.readFields, tag, write, fields]
  | declareStatement e =>
    simp [readAs, Exercise.readFields, tag, write, fields, restores_list ScriptStep.restores]
  | declareHint step =>
    -- The directive is written just as the step of a script is.
    have hread : (HintStep.read step.write).value? = some step := HintStep.restores step
    exact (Checked.value?_functorMap declareHint (HintStep.read step.write)).trans
      (by rw [hread, Option.map_some])
  | _ => simp [readAs, tag, write, fields]

/-- **Directives are read back.** What a directive is written as is read as the same directive, and
no variant but its own can read it. -/
theorem read_write (d : Directive) :
    (∃ fit, read d.write = .accepted d fit)
      ∧ ∀ tag, (∃ e, (readAs tag d.write).value? = some e) ↔ tag = d.tag := by
  refine ⟨?_, fun tag => ⟨fun h => ?_, fun h => ?_⟩⟩
  · obtain ⟨fit, hfit⟩ := Checked.value?_eq_some_iff.1 d.readAs_write
    exact ⟨fit, (read_eq_accepted_iff_of_mark rfl).2 hfit⟩
  · obtain ⟨e, he⟩ := h
    by_contra hne
    exact absurd (he.symm.trans (readAs_eq_none_of_mark rfl hne)) (by simp)
  · subst h
    exact ⟨d, d.readAs_write⟩

end Directive
end Curriculum
