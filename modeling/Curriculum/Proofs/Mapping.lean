import Mathlib.Data.List.Basic
import Curriculum.OrderedMap

/-!
# Reading an ordered mapping

What is read from a mapping after its values were changed, and how changing
values goes together with writing keys. Everything rests on
`get?_eq_some_iff`: since no key occurs twice, reading a key finds the one entry
that it has.

Main statements: `get?_mapWithKey` and `get?_modify` say what a change of values
does to a key, `mapWithKey_congr` that only the entries count, and `map_insert`
and `map_modify` that a change of all values may be made before a write or
after it.
-/

namespace Curriculum.OrderedMap

variable {α : Type u} {β : Type v} {γ : Type w} [DecidableEq α]

/-- In a list without repeated keys, the value of a key is the one it stands with. -/
theorem lookup_eq_some_iff_mem {l : List (α × β)} (hl : (l.map Prod.fst).Nodup) {k : α} {v : β} :
    l.lookup k = some v ↔ (k, v) ∈ l := by
  induction l with
  | nil => simp
  | cons e rest ih =>
    rw [List.map_cons, List.nodup_cons] at hl
    rw [lookup_cons_eq, List.mem_cons]
    by_cases hk : k = e.1
    · subst hk
      have hrest : (e.1, v) ∉ rest := fun h => hl.1 (List.mem_map.2 ⟨_, h, rfl⟩)
      rw [if_pos rfl, Option.some_inj]
      constructor
      · intro h
        subst h
        exact .inl rfl
      · intro h
        rcases h with h | h
        · exact (congrArg Prod.snd h).symm
        · exact absurd h hrest
    · rw [if_neg hk, ih hl.2]
      constructor
      · exact .inr
      · intro h
        rcases h with h | h
        · exact absurd (congrArg Prod.fst h) hk
        · exact h

/-- Reading a key finds its entry. -/
theorem get?_eq_some_iff {m : OrderedMap α β} {k : α} {v : β} :
    m.get? k = some v ↔ (k, v) ∈ m.entries :=
  lookup_eq_some_iff_mem m.nodup

/-- The keys are what can be read. -/
theorem mem_keys_iff {m : OrderedMap α β} {k : α} : k ∈ m.keys ↔ ∃ v, m.get? k = some v := by
  simp only [get?_eq_some_iff, keys, List.mem_map, Prod.exists, exists_and_right, exists_eq_right]

theorem mem_keys_iff_isSome {m : OrderedMap α β} {k : α} : k ∈ m.keys ↔ (m.get? k).isSome := by
  rw [mem_keys_iff, Option.isSome_iff_exists]

/-- The values are what is read at some key. -/
theorem mem_values_iff {m : OrderedMap α β} {v : β} : v ∈ m.values ↔ ∃ k, m.get? k = some v := by
  simp only [get?_eq_some_iff, values, List.mem_map, Prod.exists, exists_eq_right]

omit [DecidableEq α] in
theorem nodup_keys (m : OrderedMap α β) : m.keys.Nodup := m.nodup

omit [DecidableEq α] in
/-- The mapping without keys is the only one without entries. -/
theorem isEmpty_iff {m : OrderedMap α β} : m.isEmpty = true ↔ m = empty := by
  rw [isEmpty, List.isEmpty_iff]
  constructor
  · intro h
    exact ext_entries h
  · intro h
    rw [h]
    rfl

theorem contains_eq_isSome (m : OrderedMap α β) (k : α) : m.contains k = (m.get? k).isSome := by
  rw [Bool.eq_iff_iff, contains, List.contains_iff_mem, mem_keys_iff_isSome]

/-- The values are what is read at the keys, in the order of the keys. -/
theorem values_eq_filterMap_keys (m : OrderedMap α β) : m.values = m.keys.filterMap m.get? := by
  have hread : ∀ e ∈ m.entries, m.get? e.1 = some e.2 := fun e he => get?_eq_some_iff.2 he
  rw [values, keys, List.filterMap_map, ← List.filterMap_eq_map]
  refine List.filterMap_congr fun e he => ?_
  rw [Function.comp_apply, Function.comp_apply, hread e he]

/-- What is collected from the values of different keys, if one of the keys alone contributes to
it. -/
theorem flatMap_filterMap_get? {m : OrderedMap α β} {k : α} {f : β → List γ}
    (h : ∀ k' v, m.get? k' = some v → k' ≠ k → f v = []) {keys : List α} (hkeys : keys.Nodup)
    (hmem : k ∈ keys ↔ k ∈ m.keys) :
    (keys.filterMap m.get?).flatMap f = (m.get? k).elim [] f := by
  have hcollect : (keys.filterMap m.get?).flatMap f
      = if k ∈ keys then (m.get? k).elim [] f else [] := by
    clear hmem
    induction keys with
    | nil => rfl
    | cons k' rest ih =>
      obtain ⟨hk', hrest⟩ := List.nodup_cons.1 hkeys
      rw [List.filterMap_cons]
      by_cases hk : k' = k
      · subst hk
        rw [if_neg hk'] at ih
        rw [if_pos List.mem_cons_self]
        cases m.get? k' with
        | none => exact ih hrest
        | some v => rw [List.flatMap_cons, ih hrest, List.append_nil]; rfl
      · have hmem : k ∈ k' :: rest ↔ k ∈ rest := by simp [Ne.symm hk]
        simp only [hmem]
        cases hv : m.get? k' with
        | none => exact ih hrest
        | some v => rw [List.flatMap_cons, h k' v hv hk, List.nil_append, ih hrest]
  rw [hcollect]
  cases hv : m.get? k with
  | none => exact ite_self _
  | some v => exact if_pos (hmem.2 (mem_keys_iff.2 ⟨v, hv⟩))

/-- Two mappings are equal if they have the same keys in the same order, and the same values at
them. -/
theorem ext_get? {m n : OrderedMap α β} (hkeys : m.keys = n.keys) (h : ∀ k, m.get? k = n.get? k) :
    m = n := by
  refine ext_entries (List.ext_getElem ?_ fun i hi hi' => ?_)
  · simpa only [keys, List.length_map] using congrArg List.length hkeys
  · have hfst : m.entries[i].1 = n.entries[i].1 := by
      simpa only [keys, List.getElem_map] using List.getElem_of_eq hkeys (by simpa [keys] using hi)
    have hm : m.get? m.entries[i].1 = some m.entries[i].2 :=
      get?_eq_some_iff.2 (List.getElem_mem hi)
    have hn : n.get? n.entries[i].1 = some n.entries[i].2 :=
      get?_eq_some_iff.2 (List.getElem_mem hi')
    rw [h, hfst] at hm
    exact Prod.ext hfst (Option.some.inj (hm.symm.trans hn))

/-- If the keys of one mapping come first in another one, and the other one reads nothing that the
first does not read, they are equal. -/
theorem eq_of_keys_prefix {m n : OrderedMap α β} (hkeys : m.keys <+: n.keys)
    (h : ∀ k v, n.get? k = some v → m.get? k = some v) : n = m := by
  obtain ⟨rest, hrest⟩ := hkeys
  have hnil : rest = [] := by
    refine List.eq_nil_iff_forall_not_mem.2 fun k hk => ?_
    obtain ⟨v, hv⟩ := mem_keys_iff.1 (hrest ▸ List.mem_append_right _ hk)
    have hnodup : (m.keys ++ rest).Nodup := hrest ▸ n.nodup
    -- The key is read in `m` as well, so it would stand twice among the keys of `n`.
    exact (List.nodup_append.1 hnodup).2.2 k (mem_keys_iff.2 ⟨v, h k v hv⟩) k hk rfl
  rw [hnil, List.append_nil] at hrest
  refine ext_get? hrest.symm fun k => ?_
  cases hn : n.get? k with
  | some v => exact (h k v hn).symm
  | none =>
    cases hm : m.get? k with
    | none => rfl
    | some v =>
      obtain ⟨v', hv'⟩ := mem_keys_iff.1 (hrest ▸ mem_keys_iff.2 ⟨v, hm⟩)
      exact absurd (hn.symm.trans hv') (by simp)

/-! ## Writing entries -/

/-- A new key goes to the end. -/
theorem write_of_notMem {k : α} (v : β) {l : List (α × β)} (h : k ∉ l.map Prod.fst) :
    write k v l = l ++ [(k, v)] := by
  induction l with
  | nil => rfl
  | cons e rest ih =>
    rw [List.map_cons, List.mem_cons, not_or] at h
    rw [write, if_neg (Ne.symm h.1), ih h.2, List.cons_append]

/-- Entries whose keys are all new go to the end in their order. -/
theorem entries_foldl_insert {m : OrderedMap α β} {l : List (α × β)}
    (h : ((m.entries ++ l).map Prod.fst).Nodup) :
    (l.foldl (fun m e => m.insert e.1 e.2) m).entries = m.entries ++ l := by
  induction l generalizing m with
  | nil => exact (List.append_nil _).symm
  | cons e rest ih =>
    rw [List.append_cons] at h
    have hnew : e.1 ∉ m.entries.map Prod.fst := by
      rw [List.map_append, List.map_append] at h
      have hfirst := (List.nodup_append.1 (List.nodup_append.1 h).1).2.2
      exact fun hmem => hfirst e.1 hmem e.1 List.mem_cons_self rfl
    have hinsert : (m.insert e.1 e.2).entries = m.entries ++ [e] := write_of_notMem e.2 hnew
    rw [List.foldl_cons, ih (hinsert ▸ h), hinsert, List.append_assoc, List.singleton_append]

/-- Entries with different keys are kept as they are. -/
theorem entries_ofList {l : List (α × β)} (h : (l.map Prod.fst).Nodup) : (ofList l).entries = l :=
  entries_foldl_insert h

/-- A mapping is what its entries make, written one after the other. -/
theorem ofList_entries (m : OrderedMap α β) : ofList m.entries = m :=
  ext_entries (entries_ofList m.nodup)

/-! ## Changing values -/

omit [DecidableEq α] in
@[simp] theorem keys_mapWithKey (f : α → β → γ) (m : OrderedMap α β) :
    (m.mapWithKey f).keys = m.keys := by
  simp [keys, mapWithKey, Function.comp_def]

omit [DecidableEq α] in
theorem map_eq_mapWithKey (f : β → γ) (m : OrderedMap α β) : m.map f = m.mapWithKey fun _ => f :=
  rfl

@[simp] theorem get?_mapWithKey (f : α → β → γ) (m : OrderedMap α β) (k : α) :
    (m.mapWithKey f).get? k = (m.get? k).map (f k) := by
  obtain ⟨l, hl⟩ := m
  show (l.map fun e => (e.1, f e.1 e.2)).lookup k = (l.lookup k).map (f k)
  clear hl
  induction l with
  | nil => rfl
  | cons e rest ih =>
    rw [List.map_cons, lookup_cons_eq, lookup_cons_eq, ih]
    by_cases h : k = e.1
    · rw [if_pos h, if_pos h, h, Option.map_some]
    · rw [if_neg h, if_neg h]

@[simp] theorem get?_map (f : β → γ) (m : OrderedMap α β) (k : α) :
    (m.map f).get? k = (m.get? k).map f := get?_mapWithKey (fun _ => f) m k

/-- Changing one key leaves what is read at the others. -/
theorem get?_modify (m : OrderedMap α β) (k k' : α) (f : β → β) :
    (m.modify k f).get? k' = if k' = k then (m.get? k').map f else m.get? k' := by
  rw [modify, get?_mapWithKey]
  by_cases h : k' = k
  · simp only [if_pos h]
  · simp only [if_neg h, Option.map_id']

omit [DecidableEq α] in
@[simp] theorem values_map (f : β → γ) (m : OrderedMap α β) :
    (m.map f).values = m.values.map f := by
  simp [values, map, Function.comp_def]

/-- Two changes that agree on every entry have the same outcome. -/
theorem mapWithKey_congr {f g : α → β → γ} {m : OrderedMap α β}
    (h : ∀ k v, m.get? k = some v → f k v = g k v) : m.mapWithKey f = m.mapWithKey g := by
  refine ext_entries (List.map_congr_left fun e he => ?_)
  rw [h e.1 e.2 (get?_eq_some_iff.2 he)]

omit [DecidableEq α] in
theorem mapWithKey_mapWithKey {δ : Type x} (f : α → β → γ) (g : α → γ → δ) (m : OrderedMap α β) :
    (m.mapWithKey f).mapWithKey g = m.mapWithKey fun k v => g k (f k v) := by
  refine ext_entries ?_
  simp only [mapWithKey, List.map_map, Function.comp_def]

omit [DecidableEq α] in
/-- Changing nothing changes nothing. -/
theorem mapWithKey_id (m : OrderedMap α β) : m.mapWithKey (fun _ v => v) = m :=
  ext_entries (List.map_id' m.entries)

theorem modify_id (m : OrderedMap α β) (k : α) : m.modify k (fun v => v) = m := by
  simp only [modify, ite_self, mapWithKey_id]

/-- Changing one key twice. -/
theorem modify_modify (m : OrderedMap α β) (k : α) (f g : β → β) :
    (m.modify k f).modify k g = m.modify k fun v => g (f v) := by
  simp only [modify, mapWithKey_mapWithKey]
  congr 1
  funext k' v
  by_cases hk : k' = k
  · simp only [if_pos hk]
  · simp only [if_neg hk]

/-! ## Changing values and writing keys -/

theorem map_write (f : β → γ) (k : α) (v : β) (l : List (α × β)) :
    (write k v l).map (fun e => (e.1, f e.2)) = write k (f v) (l.map fun e => (e.1, f e.2)) := by
  induction l with
  | nil => rfl
  | cons e rest ih =>
    by_cases h : e.1 = k
    · simp only [write, if_pos h, List.map_cons]
    · simp only [write, if_neg h, List.map_cons, ih]

/-- All values may be changed before a key is written or after it. -/
theorem map_insert (f : β → γ) (m : OrderedMap α β) (k : α) (v : β) :
    (m.insert k v).map f = (m.map f).insert k (f v) :=
  ext_entries (map_write f k v m.entries)

/-- All values may be changed before one of them is or after it, if the changes go together. -/
theorem map_modify {f : β → γ} {g : β → β} {g' : γ → γ} (h : ∀ v, f (g v) = g' (f v))
    (m : OrderedMap α β) (k : α) : (m.modify k g).map f = (m.map f).modify k g' := by
  simp only [modify, map_eq_mapWithKey, mapWithKey_mapWithKey]
  congr 1
  funext k' v
  by_cases hk : k' = k
  · simp only [if_pos hk, h]
  · simp only [if_neg hk]

end Curriculum.OrderedMap
