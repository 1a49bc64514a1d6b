/-!
# Sorting

Sorting by insertion. The elements are taken from the end of the list, and each
is put before the first one that it may stand before; elements that may stand
in either order therefore keep the order they had. The recursion is on the list
itself, so that the sort of a given list can be evaluated inside a proof.

Main statements: `sortBy_perm`, no element is lost or added; `pairwise_sortBy`,
the outcome is in order; `sortBy_map`, it makes no difference whether the keys
are computed before the sort or during it.
-/

namespace Curriculum

variable {α : Type u} {β : Type v}

/-- Puts an element before the first one that it may stand before. -/
def insertBy (le : α → α → Bool) (a : α) : List α → List α
  | [] => [a]
  | b :: rest => if le a b then a :: b :: rest else b :: insertBy le a rest

/-- Sorts a list. -/
def sortBy (le : α → α → Bool) (l : List α) : List α := l.foldr (insertBy le) []

theorem insertBy_perm (le : α → α → Bool) (a : α) (l : List α) :
    (insertBy le a l).Perm (a :: l) := by
  induction l with
  | nil => exact .refl _
  | cons b rest ih =>
    rw [insertBy]
    split
    · exact .refl _
    · exact (ih.cons b).trans (.swap a b rest)

theorem sortBy_perm (le : α → α → Bool) (l : List α) : (sortBy le l).Perm l := by
  induction l with
  | nil => exact .refl _
  | cons a rest ih => exact (insertBy_perm le a _).trans (ih.cons a)

@[simp] theorem mem_sortBy {le : α → α → Bool} {l : List α} {a : α} :
    a ∈ sortBy le l ↔ a ∈ l := (sortBy_perm le l).mem_iff

/-- Insertion keeps a list in order. -/
theorem pairwise_insertBy {le : α → α → Bool}
    (trans : ∀ a b c, le a b = true → le b c = true → le a c = true)
    (total : ∀ a b, le a b = true ∨ le b a = true) (a : α) {l : List α}
    (h : l.Pairwise fun a b => le a b = true) :
    (insertBy le a l).Pairwise fun a b => le a b = true := by
  induction l with
  | nil => simp [insertBy]
  | cons b rest ih =>
    obtain ⟨hb, hrest⟩ := List.pairwise_cons.1 h
    rw [insertBy]
    split
    · next hab =>
      refine List.pairwise_cons.2 ⟨fun x hx => ?_, h⟩
      rcases List.mem_cons.1 hx with rfl | hx
      · exact hab
      · exact trans a b x hab (hb x hx)
    · next hab =>
      refine List.pairwise_cons.2 ⟨fun x hx => ?_, ih hrest⟩
      rcases List.mem_cons.1 ((insertBy_perm le a rest).mem_iff.1 hx) with rfl | hx
      · exact (total x b).resolve_left hab
      · exact hb x hx

/-- A sorted list is in order. -/
theorem pairwise_sortBy {le : α → α → Bool}
    (trans : ∀ a b c, le a b = true → le b c = true → le a c = true)
    (total : ∀ a b, le a b = true ∨ le b a = true) (l : List α) :
    (sortBy le l).Pairwise fun a b => le a b = true := by
  induction l with
  | nil => exact .nil
  | cons a rest ih => exact pairwise_insertBy trans total a ih

theorem insertBy_map (le : β → β → Bool) (f : α → β) (a : α) (l : List α) :
    insertBy le (f a) (l.map f) = (insertBy (fun a b => le (f a) (f b)) a l).map f := by
  induction l with
  | nil => rfl
  | cons b rest ih =>
    simp only [List.map_cons, insertBy]
    split
    · rfl
    · rw [ih, List.map_cons]

theorem sortBy_map (le : β → β → Bool) (f : α → β) (l : List α) :
    sortBy le (l.map f) = (sortBy (fun a b => le (f a) (f b)) l).map f := by
  induction l with
  | nil => rfl
  | cons a rest ih =>
    show insertBy le (f a) (sortBy le (rest.map f)) = _
    rw [ih, insertBy_map]
    rfl

example : sortBy (fun a b => a % 10 ≤ b % 10) [12, 31, 2, 11] = [31, 11, 12, 2] := by decide

end Curriculum
