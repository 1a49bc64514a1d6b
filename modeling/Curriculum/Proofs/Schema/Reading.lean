import Curriculum.Schema.Choice

/-!
# What a reading gives

A reading either gives a value or it does not; `Checked.value?` forgets all the
rest, the evidence as well as the issues. It goes through everything that
readings are put together from: readings side by side give a value exactly if all
of them do (`value?_seq`), looking at a part from outside or counting it changes
nothing (`value?_within`, `value?_counted`), and a member that has to be there
gives what its own value gives (`value?_required`).

A choice between variants gives what the only variant gives that can read the
value, with the evidence of that variant (`choose_eq_accepted_iff`).
-/

namespace Curriculum.Schema

/-! ## Readings put together -/

namespace Checked

variable {α β : Type u}

theorem value?_eq_some_iff {x : Checked α} {v : α} :
    x.value? = some v ↔ ∃ fit, x = accepted v fit := by
  cases x with
  | accepted w fit => simp [value?]
  | rejected is => simp [value?]

@[simp] theorem value?_accepted (v : α) (fit : Fit) : (accepted v fit).value? = some v := rfl

@[simp] theorem value?_exactly (v : α) : (exactly v).value? = some v := rfl

@[simp] theorem value?_rejected (is : List Issue) : (rejected is : Checked α).value? = none := rfl

@[simp] theorem value?_fail (fault : Fault) : (fail fault : Checked α).value? = none := rfl

@[simp] theorem value?_map (f : α → β) (x : Checked α) : (x.map f).value? = x.value?.map f := by
  cases x <;> rfl

@[simp] theorem value?_functorMap (f : α → β) (x : Checked α) :
    (f <$> x).value? = x.value?.map f := value?_map f x

@[simp] theorem value?_seq (f : Checked (α → β)) (x : Checked α) :
    (f <*> x).value? = f.value?.bind fun g => x.value?.map g := by
  cases f <;> cases x <;> rfl

@[simp] theorem value?_refine (f : α → Except Fault β) (x : Checked α) :
    (x.refine f).value? = x.value?.bind fun v => (f v).toOption := by
  cases x with
  | accepted v fit =>
    rw [refine, value?_accepted, Option.bind_some]
    cases f v <;> rfl
  | rejected is => rfl

@[simp] theorem value?_within (step : String) (x : Checked α) :
    (x.within step).value? = x.value? := by
  cases x <;> rfl

@[simp] theorem value?_counted (x : Checked α) : x.counted.value? = x.value? := by
  cases x <;> rfl

/-- A reading that gives no other values than those of a class. -/
def All (P : α → Prop) (x : Checked α) : Prop := ∀ v, x.value? = some v → P v

theorem All.map {P : β → Prop} {f : α → β} {x : Checked α} (h : ∀ v, P (f v)) :
    All P (f <$> x) := by
  intro w hw
  rw [value?_functorMap] at hw
  obtain ⟨v, -, rfl⟩ := Option.map_eq_some_iff.1 hw
  exact h v

theorem All.seq {P : β → Prop} {f : Checked (α → β)} {x : Checked α}
    (h : f.All fun g => ∀ v, P (g v)) : All P (f <*> x) := by
  intro w hw
  rw [value?_seq] at hw
  obtain ⟨g, hg, hw⟩ := Option.bind_eq_some_iff.1 hw
  obtain ⟨v, -, rfl⟩ := Option.map_eq_some_iff.1 hw
  exact h g hg v

theorem All.fail {P : α → Prop} (fault : Fault) : All P (fail fault) := fun _ h => nomatch h

end Checked

/-! ## Members of a record -/

section Members

variable {α : Type u} {ms : Members} {name : String} {read : Reader α}

/-- A member that has to be there gives what its value gives. -/
@[simp] theorem value?_required :
    (required name read ms).value? = (ms.get? name).bind fun v => (read v).value? := by
  unfold required
  cases ms.get? name <;> simp

@[simp] theorem value?_defaulted {default : α} :
    (defaulted name read default ms).value?
      = (ms.get? name).elim (some default) fun v => (read v).value? := by
  unfold defaulted
  cases ms.get? name <;> simp

@[simp] theorem value?_optional :
    (optional name read ms).value?
      = (ms.get? name).elim (some none) fun v => (Reader.nullable read v).value? :=
  value?_defaulted

/-- A mark that is there has to be the right one. -/
theorem value?_tagged_of_ne {label mark : String} (h : ms.get? "type" = some (.text mark))
    (hne : mark ≠ label) : (tagged label ms).value? = none := by
  simp [tagged, h, Reader.literal, hne]

end Members

/-! ## Choices -/

section Choices

variable {α : Type u} {v : Value} {variants before after : List (String × Reader α)}

theorem successes_eq_nil (h : ∀ variant ∈ variants, (variant.2 v).value? = none) :
    successes v variants = [] := by
  refine List.filterMap_eq_nil_iff.2 fun (name, read) hvariant => ?_
  have hnone : (read v).value? = none := h (name, read) hvariant
  cases hread : read v with
  | accepted a fit => simp [hread] at hnone
  | rejected is => simp only [hread]

/-- If no other variant can read a value, then a choice reads it as the one variant does. -/
theorem choose_eq_accepted_iff {name : String} {read : Reader α}
    (h : ∀ variant ∈ before ++ after, (variant.2 v).value? = none) {a : α} {fit : Fit} :
    choose (before ++ (name, read) :: after) v = .accepted a fit ↔ read v = .accepted a fit := by
  have hbefore : successes v before = [] :=
    successes_eq_nil fun variant hvariant => h variant (List.mem_append_left _ hvariant)
  have hafter : successes v after = [] :=
    successes_eq_nil fun variant hvariant => h variant (List.mem_append_right _ hvariant)
  have honly : successes v (before ++ (name, read) :: after) = successes v [(name, read)] := by
    have happend : successes v (before ++ (name, read) :: after)
        = successes v before ++ (successes v [(name, read)] ++ successes v after) := by
      simp only [successes, ← List.filterMap_append, List.singleton_append]
    rw [happend, hbefore, hafter, List.nil_append, List.append_nil]
  rw [choose, honly]
  cases hread : read v with
  | accepted b fit' => simp [successes, hread, best]
  | rejected is => simp [successes, hread, best]

/-- The same for the value alone. -/
theorem value?_choose (before after : List (String × Reader α)) {name : String} {read : Reader α}
    (h : ∀ variant ∈ before ++ after, (variant.2 v).value? = none) :
    (choose (before ++ (name, read) :: after) v).value? = (read v).value? := by
  ext a
  simp only [Checked.value?_eq_some_iff, choose_eq_accepted_iff h]

end Choices
end Curriculum.Schema
