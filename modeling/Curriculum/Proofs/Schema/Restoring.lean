import Curriculum.Form.Basic
import Curriculum.Proofs.Mapping
import Curriculum.Proofs.Schema.Reading

/-!
# Reading what was written

A reader restores what a writer writes if it gives back every value from its
written form (`Restores`). The readers of simple values do this for the obvious
writers, and it is inherited by lists, by values that may be absent, as long as
null is not written for one that is there, and by ordered mappings, whose keys
come back in their order because none is written twice.

The fields of a written record are found under their names (`record_record`,
`Members.get?_cons`), so a record is restored if its parts are.
-/

namespace Curriculum

@[simp] theorem Members.get?_cons (key name : String) (v : Value) (rest : Members) :
    Members.get? ((.text key, v) :: rest) name
      = if key = name then some v else rest.get? name := rfl

namespace Schema

/-- What is written is read back. -/
abbrev Restores {α : Type u} (read : Reader α) (write : α → Value) : Prop :=
  ∀ a, (read (write a)).value? = some a

namespace Reader

open Form

variable {α κ : Type} {read : Reader α} {write : α → Value}

/-! ## Simple values -/

@[simp] theorem restores_text : Restores text .text := fun _ => rfl

@[simp] theorem restores_int : Restores int .int := fun _ => rfl

@[simp] theorem restores_bool : Restores bool .bool := fun _ => rfl

@[simp] theorem restores_nonEmptyText : Restores nonEmptyText fun s => .text s.val := by
  intro s
  simp [nonEmptyText, text, s.property, Except.toOption]

@[simp] theorem restores_identifier : Restores identifier fun s => .text s.val := by
  intro s
  simp [identifier, text, s.property, Except.toOption]

theorem restores_oneOf {ofLabel? : String → Option α} {label : α → String}
    (h : ∀ a, ofLabel? (label a) = some a) : Restores (oneOf ofLabel?) fun a => .text (label a) := by
  intro a
  simp [oneOf, h a]

/-! ## Absent values, lists and mappings -/

theorem restores_nullable (h : Restores read write) (hnull : ∀ a, write a ≠ .null) :
    Restores (nullable read) (ofOption write) := by
  intro o
  cases o with
  | none => rfl
  | some a =>
    have hread : nullable read (write a) = (read (write a)).map some := by
      unfold nullable
      split
      · next hwrite => exact absurd hwrite (hnull a)
      · rfl
    simp [ofOption, hread, h a]

theorem restores_list (h : Restores read write) : Restores (list read) (ofList write) := by
  have hitems : ∀ l position, (items read position (l.map write)).value? = some l := by
    intro l
    induction l with
    | nil => exact fun _ => rfl
    | cons a rest ih =>
      intro position
      simp [items, h a, ih]
  exact fun l => hitems l 0

theorem restores_mapping [DecidableEq κ] {readKey : Reader κ} {writeKey : κ → Value}
    (hkey : Restores readKey writeKey) (h : Restores read write) :
    Restores (mapping readKey read)
      fun m => .mapping (m.entries.map fun e => (writeKey e.1, write e.2)) := by
  have hmembers : ∀ l : List (κ × α),
      (members readKey read (l.map fun e => (writeKey e.1, write e.2))).value? = some l := by
    intro l
    induction l with
    | nil => rfl
    | cons e rest ih => simp [members, hkey e.1, h e.2, ih]
  intro m
  simp [mapping, hmembers, OrderedMap.ofList_entries]

@[simp] theorem restores_texts : Restores texts ofTexts := restores_mapping restores_text restores_text

end Reader

/-! ## Records -/

/-- A written record is read from its fields, in their order. -/
@[simp] theorem record_record {α : Type u} (build : Members → Checked α)
    (fields : List (String × Value)) :
    Reader.record build (Form.record fields)
      = build (fields.map fun (name, v) => (.text name, v)) := rfl

/-- A record that is written with its mark first has this mark. -/
@[simp] theorem value?_tagged_cons (label : String) (rest : Members) :
    (tagged label ((.text "type", .text label) :: rest)).value? = some () := by
  simp [tagged, Reader.literal]

end Schema
end Curriculum
