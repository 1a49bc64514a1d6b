import Curriculum.Proofs.Availability.Cleared

/-!
# What is registered

In a catalogue that was filled by documenting and mentioning names, every item
stands under its own kind and name, and no name is empty: `Keyed`. So the items
of a kind have different names, `nodup_names`, and their names are those that
the catalogue contains, `mem_names_iff`. Documenting or mentioning a name adds
it and takes none away (`contains_register`, `contains_mention`).
-/

namespace Curriculum.Catalogue

/-- Every item stands under its own kind and name, which is not empty. -/
def Keyed (c : Catalogue) : Prop :=
  ∀ kind name item, c.lookup kind name = some item →
    item.kind = kind ∧ item.name = name ∧ name ≠ ""

theorem keyed_empty : empty.Keyed := fun _ _ _ h => absurd h (by simp [lookup, empty])

/-- Writing an item under its own kind and name. -/
theorem Keyed.insert {c : Catalogue} (h : c.Keyed) (item : Item) (hname : item.name ≠ "") :
    Keyed ⟨c.entries.insert (item.kind, item.name) item⟩ := by
  intro kind name other hother
  rw [lookup, OrderedMap.get?_insert] at hother
  split at hother
  · next heq =>
    obtain ⟨rfl, rfl⟩ := Prod.mk.inj heq
    obtain rfl := Option.some.inj hother
    exact ⟨rfl, rfl, hname⟩
  · exact h kind name other hother

theorem Keyed.register {c : Catalogue} (h : c.Keyed) (doc : Doc) : (c.register doc).1.Keyed := by
  unfold Catalogue.register
  split
  · exact h
  · exact h.insert doc.item doc.name.property

theorem Keyed.mention {c : Catalogue} (h : c.Keyed) (kind : Kind) (name : NonEmptyText)
    (description : Option String) : (c.mention kind name description).1.Keyed := by
  unfold Catalogue.mention
  split
  · exact h
  · split
    · exact h.insert (Doc.ofDescription kind name _).item name.property
    · exact h.insert (.placeholderFor kind name) name.property

/-- Changing items and neither their kinds nor their names. -/
theorem Keyed.mapItems {c : Catalogue} (h : c.Keyed) {f : Item → Item}
    (hf : ∀ i, (f i).kind = i.kind ∧ (f i).name = i.name) : (c.mapItems f).Keyed := by
  intro kind name item hitem
  rw [lookup, Catalogue.mapItems, OrderedMap.get?_map, Option.map_eq_some_iff] at hitem
  obtain ⟨item, hitem, rfl⟩ := hitem
  rw [(hf item).1, (hf item).2]
  exact h kind name item hitem

/-- Looking up the statements of lemmas. -/
theorem Keyed.withStatement {c : Catalogue} (h : c.Keyed) (ds : Declarations) (notFound : String) :
    (c.mapItems (·.withStatement ds notFound)).Keyed := h.mapItems fun i => by
  obtain ⟨statement, heq⟩ := i.withStatement_eq ds notFound
  rw [heq]
  exact ⟨rfl, rfl⟩

theorem Keyed.compile {c : Catalogue} (h : c.Keyed) (game : Game) (graph : WorldGraph)
    (ds : Declarations) (notFound : String) :
    (game.compile graph c ds notFound).catalogue.Keyed := by
  have hmap := h.withStatement ds notFound
  unfold Game.compile
  split
  · exact h
  · dsimp only
    split
    · exact hmap
    · exact hmap

/-! ## What is added -/

theorem contains_insert (c : Catalogue) (key : Kind × String) (item : Item) (kind : Kind)
    (name : String) :
    Catalogue.contains ⟨c.entries.insert key item⟩ kind name = true
      ↔ (kind, name) = key ∨ c.contains kind name = true := by
  rw [contains, lookup, OrderedMap.get?_insert]
  split
  · next h => simp [h]
  · next h => simp [h, contains, lookup]

/-- Documenting a name adds it and no other. -/
theorem contains_register (c : Catalogue) (doc : Doc) (kind : Kind) (name : String) :
    (c.register doc).1.contains kind name = true
      ↔ (kind, name) = (doc.kind, doc.name.val) ∨ c.contains kind name = true := by
  unfold register
  split
  · next h =>
    -- A name that is documented already is in the catalogue.
    refine (or_iff_right_of_imp fun heq => ?_).symm
    obtain ⟨rfl, rfl⟩ := Prod.mk.inj heq
    unfold isDocumented at h
    split at h
    · next item hitem => rw [contains, hitem, Option.isSome_some]
    · exact absurd h (by simp)
  · exact contains_insert c _ _ kind name

/-- Mentioning a name adds it and no other. -/
theorem contains_mention (c : Catalogue) (kind : Kind) (name : NonEmptyText)
    (description : Option String) (kind' : Kind) (name' : String) :
    (c.mention kind name description).1.contains kind' name' = true
      ↔ (kind', name') = (kind, name.val) ∨ c.contains kind' name' = true := by
  unfold mention
  split
  · next h =>
    refine (or_iff_right_of_imp fun heq => ?_).symm
    obtain ⟨rfl, rfl⟩ := Prod.mk.inj heq
    exact h
  · split
    · exact contains_insert c _ _ kind' name'
    · exact contains_insert c _ _ kind' name'

/-! ## The items of a kind -/

/-- The items of a kind are those that can be looked up. -/
theorem mem_itemsOf_iff {c : Catalogue} {kind : Kind} {item : Item} :
    item ∈ c.itemsOf kind ↔ ∃ name, c.lookup kind name = some item := by
  simp only [itemsOf, lookup, OrderedMap.get?_eq_some_iff, List.mem_map, List.mem_filter]
  constructor
  · intro h
    obtain ⟨⟨⟨k, name⟩, i⟩, ⟨hmem, hkind⟩, rfl⟩ := h
    obtain rfl := of_decide_eq_true hkind
    exact ⟨name, hmem⟩
  · intro h
    obtain ⟨name, hmem⟩ := h
    exact ⟨((kind, name), item), ⟨hmem, decide_eq_true rfl⟩, rfl⟩

/-- Where items stand under their own names, they are known by them. -/
theorem Keyed.mem_itemsOf_iff {c : Catalogue} (h : c.Keyed) {kind : Kind} {item : Item} :
    item ∈ c.itemsOf kind ↔ c.lookup kind item.name = some item := by
  rw [Catalogue.mem_itemsOf_iff]
  constructor
  · intro h
    obtain ⟨name, hitem⟩ := h
    rw [(h kind name item hitem).2.1]
    exact hitem
  · exact fun hitem => ⟨item.name, hitem⟩

/-- The names of the items of a kind are those that the catalogue contains. -/
theorem Keyed.mem_names_iff {c : Catalogue} (h : c.Keyed) {kind : Kind} {name : String} :
    name ∈ (c.itemsOf kind).map (·.name) ↔ c.contains kind name = true := by
  simp only [List.mem_map, h.mem_itemsOf_iff, contains, Option.isSome_iff_exists]
  constructor
  · intro h
    obtain ⟨item, hitem, rfl⟩ := h
    exact ⟨item, hitem⟩
  · intro h
    obtain ⟨item, hitem⟩ := h
    obtain ⟨-, hname, -⟩ := h kind name item hitem
    exact ⟨item, hname.symm ▸ hitem, hname⟩

/-- The items of a kind have different names. -/
theorem Keyed.nodup_names {c : Catalogue} (h : c.Keyed) (kind : Kind) :
    ((c.itemsOf kind).map (·.name)).Nodup := by
  have hkeys : ((c.entries.entries.filter (·.1.1 = kind)).map fun e => e.1).Nodup :=
    c.entries.nodup.sublist ((List.filter_sublist).map _)
  have hnames : (c.itemsOf kind).map (fun i => (kind, i.name))
      = (c.entries.entries.filter (·.1.1 = kind)).map fun e => e.1 := by
    rw [itemsOf, List.map_map]
    refine List.map_congr_left fun e he => ?_
    obtain ⟨⟨k, name⟩, item⟩ := e
    obtain ⟨hmem, hkind⟩ := List.mem_filter.1 he
    obtain rfl := of_decide_eq_true hkind
    obtain ⟨-, hname, -⟩ := h k name item (OrderedMap.get?_eq_some_iff.2 hmem)
    rw [Function.comp_apply, hname]
  rw [← hnames] at hkeys
  refine List.pairwise_map.2 ((List.pairwise_map.1 hkeys).imp fun hne heq => hne ?_)
  rw [heq]

end Curriculum.Catalogue
