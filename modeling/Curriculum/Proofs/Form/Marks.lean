import Mathlib.Data.List.Forall2
import Mathlib.Data.List.Nodup
import Curriculum.Document
import Curriculum.Proofs.Schema.Reading

/-!
# Marked directives

A directive is not read by its mark: every variant is tried, and the best fit
wins. A mark that is there nevertheless decides, because each variant asks for
its own mark and for nothing else in its place. So only the marked variant can
read the value (`readAs_eq_none_of_mark`), and the choice between the variants
comes down to it (`read_eq_accepted_iff_of_mark`): whatever else the value holds
or lacks, it is never taken for another variant.

The directives of a document are read one by one. The document is read exactly if
all of them are, and if not, the positions that are reported are those of the
directives that cannot be read (`mem_positions`), in ascending order
(`pairwise_positions`).

Main statement: `mark_decides`.
-/

namespace Curriculum

open Schema

namespace Tag

/-- The words for two variants are different. -/
theorem label_injective : Function.Injective label := by
  intro a b h
  have ha := ofLabel?_label a
  rw [h, ofLabel?_label] at ha
  exact (Option.some.inj ha).symm

theorem nodup_all : all.Nodup := by decide

end Tag

namespace Directive

variable {tag other : Tag} {ms : Members} {v : Value} {d : Directive} {fit : Fit}

/-! ## The marked variant -/

/-- What is read as a variant is a directive of this variant. -/
theorem tag_eq_of_readAs (h : (readAs tag v).value? = some d) : d.tag = tag := by
  suffices hall : (readAs tag v).All fun d => d.tag = tag from hall d h
  cases v with
  | mapping ms =>
    cases tag
    case compile | declareHint => exact .map fun _ => rfl
    case addPath | declareNew | declareDisabled | declareOnly =>
      exact .seq (.seq (.map fun _ _ _ => rfl))
    all_goals exact .seq (.map fun _ _ => rfl)
  | _ => exact .fail _

/-- A value with the mark of another variant cannot be read as a variant. -/
theorem readAs_eq_none_of_mark (h : ms.get? "type" = some (.text tag.label)) (hne : other ≠ tag) :
    (readAs other (.mapping ms)).value? = none := by
  have hmark : (tagged other.label ms).value? = none :=
    value?_tagged_of_ne h (Tag.label_injective.ne hne.symm)
  cases other
  case declareHint =>
    have hmark : (tagged HintStep.label ms).value? = none := hmark
    simp [readAs, Reader.record, HintStep.read, hmark]
  all_goals simp [readAs, Reader.record, hmark]

/-- **A marked value** is read as the variant that it is marked as. -/
theorem read_eq_accepted_iff_of_mark (h : ms.get? "type" = some (.text tag.label)) :
    read (.mapping ms) = .accepted d fit ↔ readAs tag (.mapping ms) = .accepted d fit := by
  obtain ⟨before, after, hall⟩ := List.append_of_mem (Tag.mem_all tag)
  have hnodup : (before ++ tag :: after).Nodup := hall ▸ Tag.nodup_all
  have hother : ∀ other ∈ before ++ after, other ≠ tag := fun other hmem heq =>
    (List.nodup_middle.1 hnodup).notMem (heq ▸ hmem)
  rw [read, variants, hall, List.map_append, List.map_cons]
  refine choose_eq_accepted_iff fun variant hvariant => ?_
  rw [← List.map_append] at hvariant
  obtain ⟨other, hmem, rfl⟩ := List.mem_map.1 hvariant
  exact readAs_eq_none_of_mark h (hother other hmem)

end Directive

/-! ## The directives of a document -/

namespace Document

variable {vs : List Value} {position : Nat}

/-- The directives among the values. -/
def readable (vs : List Value) : List Directive := vs.filterMap fun v => (Directive.read v).value?

theorem directives_readDirectives (position : Nat) (vs : List Value) :
    (readDirectives position vs).1 = readable vs := by
  induction vs generalizing position with
  | nil => rfl
  | cons v rest ih =>
    cases hread : Directive.read v <;> simp [readDirectives, readable, hread, ih]

/-- The positions that are reported if the first value is at `position`. -/
def positions (position : Nat) (vs : List Value) : List Nat :=
  (readDirectives position vs).2.map (·.position)

theorem positions_cons (position : Nat) (v : Value) (rest : List Value) :
    positions position (v :: rest)
      = if (Directive.read v).value? = none then position :: positions (position + 1) rest
        else positions (position + 1) rest := by
  cases hread : Directive.read v <;> simp [positions, readDirectives, hread]

/-- Reported are the positions of the values that cannot be read. -/
theorem mem_positions {i : Nat} :
    i ∈ positions position vs
      ↔ ∃ j, i = position + j ∧ ∃ v, vs[j]? = some v ∧ (Directive.read v).value? = none := by
  induction vs generalizing position with
  | nil => simp [positions, readDirectives]
  | cons v rest ih =>
    have hrest : i ∈ positions (position + 1) rest ↔ ∃ j, i = position + (j + 1)
        ∧ ∃ w, (v :: rest)[j + 1]? = some w ∧ (Directive.read w).value? = none := by
      simp only [ih, Nat.add_assoc, Nat.add_comm 1, List.getElem?_cons_succ]
    have hhead : (i = position ∧ (Directive.read v).value? = none) ↔ i = position + 0
        ∧ ∃ w, (v :: rest)[0]? = some w ∧ (Directive.read w).value? = none := by
      simp
    rw [← Nat.or_exists_add_one, ← hhead, ← hrest, positions_cons]
    split
    · next hv => simp only [hv, and_true, List.mem_cons]
    · next hv => simp only [hv, and_false, false_or]

/-- The positions are reported in ascending order. -/
theorem pairwise_positions : (positions position vs).Pairwise (· < ·) := by
  induction vs generalizing position with
  | nil => exact .nil
  | cons v rest ih =>
    rw [positions_cons]
    split
    · refine List.pairwise_cons.2 ⟨fun i hi => ?_, ih⟩
      obtain ⟨j, rfl, -⟩ := mem_positions.1 hi
      omega
    · exact ih

theorem positions_eq_nil_iff :
    positions position vs = [] ↔ ∀ v ∈ vs, (Directive.read v).value? ≠ none := by
  induction vs generalizing position with
  | nil => simp [positions, readDirectives]
  | cons v rest ih =>
    rw [positions_cons, List.forall_mem_cons, ← @ih (position + 1)]
    split
    · next hv => simp [hv]
    · next hv => simp [hv]

theorem forall₂_readable (h : ∀ v ∈ vs, (Directive.read v).value? ≠ none) :
    List.Forall₂ (fun v d => (Directive.read v).value? = some d) vs (readable vs) := by
  induction vs with
  | nil => exact .nil
  | cons v rest ih =>
    obtain ⟨hv, hrest⟩ := List.forall_mem_cons.1 h
    obtain ⟨d, hd⟩ := Option.ne_none_iff_exists'.1 hv
    have hcons : readable (v :: rest) = d :: readable rest := by simp [readable, hd]
    rw [hcons]
    exact .cons hd (ih hrest)

/-- A list of directives is read if no position is reported. -/
theorem directivesOf_list :
    directivesOf (.list vs)
      = if positions 0 vs = [] then .ok (readable vs)
        else .error (.unreadDirectives (readDirectives 0 vs).2) := by
  cases vs with
  | nil => rfl
  | cons v rest =>
    rw [← directives_readDirectives 0, directivesOf, if_neg (by simp [Value.isAbsent])]
    cases hread : readDirectives 0 (v :: rest) with
    | mk directives unread => cases unread <;> simp [positions, hread]

/-- A document without declarations is read if its directives are. -/
theorem read_of_no_environment {ms : Members} (hunits : ms.get? "units" = some (.list vs))
    (hnone : ((ms.get? "environment").getD .null).isAbsent = true) :
    Document.read (.mapping ms) = (directivesOf (.list vs)).map (⟨.empty, ·⟩) := by
  have hdeclarations : declarationsOf ((ms.get? "environment").getD .null) = .ok .empty := by
    unfold declarationsOf
    exact if_pos hnone
  simp only [Document.read, hunits, Option.getD_some, hdeclarations]
  cases directivesOf (.list vs) <;> rfl

/-- What is expected of an attempt at reading a document: the values that it has for directives are
read each on its own. -/
structure ReadsEach (vs : List Value) (attempt : Except DocumentError Document) : Prop where
  succeeds_iff : (∃ doc, attempt = .ok doc) ↔ ∀ v ∈ vs, ∃ d, (Directive.read v).value? = some d
  /-- The directives stand in the order of the values. -/
  directives : ∀ doc, attempt = .ok doc →
    List.Forall₂ (fun v d => (Directive.read v).value? = some d) vs doc.directives
  /-- Reported are exactly the positions of the values that cannot be read. -/
  reports : (∃ v ∈ vs, (Directive.read v).value? = none) →
    ∃ unread, attempt = .error (.unreadDirectives unread)
      ∧ (unread.map (·.position)).Pairwise (· < ·)
      ∧ ∀ i, i ∈ unread.map (·.position)
        ↔ ∃ v, vs[i]? = some v ∧ (Directive.read v).value? = none

theorem readsEach_of_no_environment {ms : Members} (hunits : ms.get? "units" = some (.list vs))
    (hnone : ((ms.get? "environment").getD .null).isAbsent = true) :
    ReadsEach vs (Document.read (.mapping ms)) := by
  rw [read_of_no_environment hunits hnone, directivesOf_list]
  by_cases hall : ∀ v ∈ vs, (Directive.read v).value? ≠ none
  · rw [if_pos (positions_eq_nil_iff.2 hall)]
    refine ⟨⟨fun _ v hv => Option.ne_none_iff_exists'.1 (hall v hv), fun _ => ⟨_, rfl⟩⟩, ?_, ?_⟩
    · intro doc hdoc
      obtain rfl := Except.ok.inj hdoc
      exact forall₂_readable hall
    · intro h
      obtain ⟨v, hv, hnone⟩ := h
      exact absurd hnone (hall v hv)
  · rw [if_neg (mt positions_eq_nil_iff.1 hall)]
    refine ⟨⟨fun h => ?_, fun h => ?_⟩, fun doc hdoc => ?_, fun _ => ?_⟩
    · obtain ⟨doc, hdoc⟩ := h
      exact absurd hdoc (by simp [Except.map])
    · exact absurd (fun v hv => Option.ne_none_iff_exists'.2 (h v hv)) hall
    · exact absurd hdoc (by simp [Except.map])
    · refine ⟨_, rfl, pairwise_positions, fun i => ?_⟩
      refine mem_positions.trans ?_
      simp only [Nat.zero_add, exists_eq_left']

end Document

/-! ## What a mark decides -/

/-- **A mark decides.** A value with the mark of a variant is read as a directive exactly if it is
read as this variant, and as the same directive; it is never taken for another variant. The values
that a document without declarations has for directives are read each on its own. -/
theorem mark_decides :
    (∀ (tag : Tag) (ms : Members), ms.get? "type" = some (.text tag.label) → ∀ d fit,
      (Directive.read (.mapping ms) = .accepted d fit
          ↔ Directive.readAs tag (.mapping ms) = .accepted d fit)
        ∧ (Directive.read (.mapping ms) = .accepted d fit → d.tag = tag))
      ∧ ∀ (ms : Members) (vs : List Value), ms.get? "units" = some (.list vs) →
        ((ms.get? "environment").getD .null).isAbsent = true →
        Document.ReadsEach vs (Document.read (.mapping ms)) := by
  refine ⟨fun tag ms hmark d fit => ?_, fun ms vs => Document.readsEach_of_no_environment⟩
  have hiff : Directive.read (.mapping ms) = .accepted d fit
      ↔ Directive.readAs tag (.mapping ms) = .accepted d fit :=
    Directive.read_eq_accepted_iff_of_mark hmark
  refine ⟨hiff, fun h => ?_⟩
  exact Directive.tag_eq_of_readAs (Checked.value?_eq_some_iff.2 ⟨fit, hiff.1 h⟩)

/-- The members of a listing of new lemmas, marked as documentation. -/
def listingAsDoc : Members := [(.text "type", .text "register_doc"), (.text "kind", .text "lemma"),
  (.text "names", .list [.text "add_comm"])]

/-- It is not taken for the listing that it would be without the mark, and the document that has it
is not read. -/
theorem mark_decides_listingAsDoc :
    (∀ d fit, Directive.read (.mapping listingAsDoc) ≠ .accepted d fit)
      ∧ Document.ReadsEach [Directive.compile.write, .mapping listingAsDoc]
        (Document.read (.mapping
          [(.text "units", .list [Directive.compile.write, .mapping listingAsDoc])])) := by
  refine ⟨fun d fit h => ?_, mark_decides.2 _ _ rfl rfl⟩
  have hdoc := (mark_decides.1 .registerDoc listingAsDoc rfl d fit).1.1 h
  exact nomatch hdoc

end Curriculum
