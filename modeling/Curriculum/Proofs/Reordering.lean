import Mathlib.Data.List.Nodup
import Mathlib.Order.Lattice
import Curriculum.Proofs.Mapping
import Curriculum.Sorting

/-!
# The same in another order

Two mappings are `OrderedMap.Reordered` if they read the same at every key: their
entries are the same, and only the order of these may differ (`reordered_iff`).
Sorting hides such a difference, provided that no two elements have the same
key: then the outcome ascends strictly (`pairwise_lt_sortBy`), and there is only
one way to do that (`sortBy_eq_of_perm`).
-/

namespace Curriculum

/-! ## Sorting by a key -/

section Sorting

variable {α : Type u} {κ : Type v} [LinearOrder κ] {key : α → κ} {le : α → α → Bool}

/-- A list of elements with different keys is sorted into strictly ascending order. -/
theorem pairwise_lt_sortBy (hle : ∀ a b, le a b = true ↔ key a ≤ key b) {l : List α}
    (h : (l.map key).Nodup) : (sortBy le l).Pairwise fun a b => key a < key b := by
  have hsorted : (sortBy le l).Pairwise fun a b => le a b = true := by
    refine pairwise_sortBy (fun a b c => ?_) (fun a b => ?_) l
    · simp only [hle]
      exact le_trans
    · simp only [hle]
      exact le_total (key a) (key b)
  have hne : (sortBy le l).Pairwise fun a b => key a ≠ key b :=
    List.pairwise_map.1 (((sortBy_perm le l).map key).nodup_iff.2 h)
  exact hsorted.imp₂ (fun a b hab => lt_of_le_of_ne ((hle a b).1 hab)) hne

/-- Sorting forgets the order of a list of elements with different keys. -/
theorem sortBy_eq_of_perm (hle : ∀ a b, le a b = true ↔ key a ≤ key b) {l l' : List α}
    (hperm : l.Perm l') (h : (l.map key).Nodup) : sortBy le l = sortBy le l' := by
  have h' : (l'.map key).Nodup := (hperm.map key).nodup_iff.1 h
  refine List.Perm.eq_of_pairwise (fun a b _ _ hab hba => ?_) (pairwise_lt_sortBy hle h)
    (pairwise_lt_sortBy hle h') (((sortBy_perm le l).trans hperm).trans (sortBy_perm le l').symm)
  exact absurd hba (lt_asymm hab)

end Sorting

/-! ## Values that may be missing -/

section Optional

variable {α : Type u} {β : Type v} {r : α → β → Prop}

instance decidableOptionRel [∀ a b, Decidable (r a b)] : ∀ a b, Decidable (Option.Rel r a b)
  | none, none => isTrue .none
  | some a, some b => decidable_of_iff (r a b) ⟨.some, fun | .some h => h⟩
  | none, some _ | some _, none => isFalse nofun

theorem isSome_eq_of_rel {a : Option α} {b : Option β} (h : Option.Rel r a b) :
    a.isSome = b.isSome := by
  cases h <;> rfl

/-- Related values stay related under functions that keep the relation. -/
theorem rel_map {γ : Type u'} {δ : Type v'} {s : γ → δ → Prop} {f : α → γ} {g : β → δ}
    (hfg : ∀ a b, r a b → s (f a) (g b)) {a : Option α} {b : Option β} (h : Option.Rel r a b) :
    Option.Rel s (a.map f) (b.map g) := by
  cases h with
  | none => exact .none
  | some hab => exact .some (hfg _ _ hab)

end Optional

/-! ## Mappings -/

namespace OrderedMap

variable {α : Type u} {β : Type v} [DecidableEq α] {m n : OrderedMap α β}

/-- The same values at the same keys, perhaps in another order. -/
def Reordered (m n : OrderedMap α β) : Prop := ∀ k, m.get? k = n.get? k

/-- Only the order of the entries may differ. -/
theorem reordered_iff : m.Reordered n ↔ m.entries.Perm n.entries := by
  rw [List.perm_ext_iff_of_nodup (.of_map Prod.fst m.nodup) (.of_map Prod.fst n.nodup)]
  constructor
  · intro h e
    rw [← get?_eq_some_iff, h, get?_eq_some_iff]
  · intro h k
    refine Option.ext fun v => ?_
    rw [get?_eq_some_iff, h, get?_eq_some_iff]

instance [DecidableEq β] : Decidable (m.Reordered n) := decidable_of_iff _ reordered_iff.symm

theorem Reordered.keys_perm (h : m.Reordered n) : m.keys.Perm n.keys :=
  (reordered_iff.1 h).map Prod.fst

theorem Reordered.values_perm (h : m.Reordered n) : m.values.Perm n.values :=
  (reordered_iff.1 h).map Prod.snd

theorem Reordered.map {γ : Type w} (h : m.Reordered n) (f : β → γ) :
    (m.map f).Reordered (n.map f) := fun k => by rw [get?_map, get?_map, h]

end OrderedMap
end Curriculum
