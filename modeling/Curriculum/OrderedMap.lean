/-!
# Ordered mappings

A finite mapping that remembers the order in which its keys were first
written. Writing a known key keeps the key's place and replaces its value;
writing a new key puts it at the end. The list of entries is the view through
which everything else is stated: no key occurs twice in it, so two mappings
are equal exactly when their entries are.

Main statements: `keys_insert` says which keys a write leaves and in which
order, `get?_insert` what is read afterwards.
-/

namespace Curriculum

/-- A finite mapping whose keys have an order: the order of their first write. -/
structure OrderedMap (α : Type u) (β : Type v) where
  /-- The keys with their values, oldest key first. -/
  entries : List (α × β)
  /-- No key occurs twice. -/
  nodup : (entries.map Prod.fst).Nodup

namespace OrderedMap

variable {α : Type u} {β : Type v} {γ : Type w}

theorem ext_entries {m n : OrderedMap α β} (h : m.entries = n.entries) : m = n := by
  cases m; cases n; cases h; rfl

instance [DecidableEq α] [DecidableEq β] : DecidableEq (OrderedMap α β) := fun m n =>
  decidable_of_iff (m.entries = n.entries) ⟨ext_entries, fun h => h ▸ rfl⟩

/-- The mapping without keys. -/
def empty : OrderedMap α β := ⟨[], .nil⟩

instance : Inhabited (OrderedMap α β) := ⟨empty⟩

/-- The keys, oldest first. -/
def keys (m : OrderedMap α β) : List α := m.entries.map Prod.fst

/-- The values, in the order of their keys. -/
def values (m : OrderedMap α β) : List β := m.entries.map Prod.snd

/-- How many keys there are. -/
def size (m : OrderedMap α β) : Nat := m.entries.length

/-- Whether there are no keys. -/
def isEmpty (m : OrderedMap α β) : Bool := m.entries.isEmpty

/-- Applies a function to every value and leaves the keys as they are. -/
def map (f : β → γ) (m : OrderedMap α β) : OrderedMap α γ where
  entries := m.entries.map fun e => (e.1, f e.2)
  nodup := by simpa [Function.comp_def] using m.nodup

/-- Applies a function to every value, which may look at the key. -/
def mapWithKey (f : α → β → γ) (m : OrderedMap α β) : OrderedMap α γ where
  entries := m.entries.map fun e => (e.1, f e.1 e.2)
  nodup := by simpa [Function.comp_def] using m.nodup

variable [DecidableEq α]

/-- The value of a key. -/
def get? (m : OrderedMap α β) (k : α) : Option β := m.entries.lookup k

/-- Whether a key is there. -/
def contains (m : OrderedMap α β) (k : α) : Bool := m.keys.contains k

/-- Writes one entry of a list of entries: in place if the key is there, at the end if not. -/
def write (k : α) (v : β) : List (α × β) → List (α × β)
  | [] => [(k, v)]
  | e :: rest => if e.1 = k then (k, v) :: rest else e :: write k v rest

theorem map_fst_write (k : α) (v : β) (l : List (α × β)) :
    (write k v l).map Prod.fst
      = if k ∈ l.map Prod.fst then l.map Prod.fst else l.map Prod.fst ++ [k] := by
  induction l with
  | nil => simp [write]
  | cons e rest ih =>
    by_cases h : e.1 = k
    · simp [write, h]
    · have h' : ¬ k = e.1 := fun he => h he.symm
      by_cases hk : k ∈ rest.map Prod.fst
      · simp only [write, if_neg h, List.map_cons, ih, if_pos hk,
          if_pos (List.mem_cons_of_mem _ hk)]
      · simp only [write, if_neg h, List.map_cons, ih, if_neg hk, List.mem_cons, h', false_or,
          List.cons_append]

theorem nodup_write (k : α) (v : β) {l : List (α × β)} (h : (l.map Prod.fst).Nodup) :
    ((write k v l).map Prod.fst).Nodup := by
  rw [map_fst_write]
  split
  · exact h
  · next hk =>
    refine List.nodup_append.2 ⟨h, by simp, ?_⟩
    intro a ha b hb hab
    rw [List.mem_singleton.1 hb] at hab
    exact hk (hab ▸ ha)

/-- Writes a key: a known key keeps its place, a new one goes to the end. -/
def insert (m : OrderedMap α β) (k : α) (v : β) : OrderedMap α β :=
  ⟨write k v m.entries, nodup_write k v m.nodup⟩

/-- Writes a list of entries, first to last: each key has the place of its first and the value of
its last occurrence. -/
def ofList (l : List (α × β)) : OrderedMap α β :=
  l.foldl (fun m e => m.insert e.1 e.2) empty

/-- Changes the value of one key, if it is there. -/
def modify (m : OrderedMap α β) (k : α) (f : β → β) : OrderedMap α β :=
  m.mapWithKey fun k' v => if k' = k then f v else v

theorem keys_insert (m : OrderedMap α β) (k : α) (v : β) :
    (m.insert k v).keys = if k ∈ m.keys then m.keys else m.keys ++ [k] :=
  map_fst_write k v m.entries

theorem lookup_cons_eq (k : α) (e : α × β) (l : List (α × β)) :
    (e :: l).lookup k = if k = e.1 then some e.2 else l.lookup k := by
  obtain ⟨k', v⟩ := e
  rw [List.lookup_cons]
  by_cases h : k = k'
  · rw [beq_iff_eq.2 h, if_pos h]
  · rw [beq_eq_false_iff_ne.2 h, if_neg h]

theorem get?_insert (m : OrderedMap α β) (k k' : α) (v : β) :
    (m.insert k v).get? k' = if k' = k then some v else m.get? k' := by
  obtain ⟨l, h⟩ := m
  show (write k v l).lookup k' = if k' = k then some v else l.lookup k'
  clear h
  induction l with
  | nil => rw [write, lookup_cons_eq]
  | cons e rest ih =>
    by_cases he : e.1 = k
    · rw [write, if_pos he, lookup_cons_eq, lookup_cons_eq, he]
      by_cases hk : k' = k <;> simp only [hk, if_true, if_false]
    · rw [write, if_neg he, lookup_cons_eq, lookup_cons_eq, ih]
      by_cases hk : k' = e.1
      · have hne : ¬ k' = k := fun h => he (hk ▸ h)
        rw [if_pos hk, if_neg hne, if_pos hk]
      · rw [if_neg hk, if_neg hk]

@[simp] theorem get?_empty (k : α) : (empty : OrderedMap α β).get? k = none := rfl

omit [DecidableEq α] in
@[simp] theorem keys_map (f : β → γ) (m : OrderedMap α β) : (m.map f).keys = m.keys := by
  simp [keys, map, Function.comp_def]

@[simp] theorem keys_modify (m : OrderedMap α β) (k : α) (f : β → β) :
    (m.modify k f).keys = m.keys := by
  simp [keys, modify, mapWithKey, Function.comp_def]

end OrderedMap
end Curriculum
