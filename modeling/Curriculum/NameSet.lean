/-!
# Sets of names

A finite set of names, kept as its members in strictly ascending order of
code points. The order is part of the type, so a set has one representation:
`ext_mem` says that two sets with the same members are equal, whatever lists
they were made from.
-/

namespace Curriculum

/-- A finite set of names. -/
structure NameSet where
  /-- The members, ascending. -/
  names : List String
  /-- Each member is below the next, so none occurs twice. -/
  ascending : names.Pairwise (· < ·)

namespace NameSet

/-- The set without members. -/
def empty : NameSet := ⟨[], .nil⟩

instance : Inhabited NameSet := ⟨empty⟩

instance : Membership String NameSet := ⟨fun s name => name ∈ s.names⟩

instance (name : String) (s : NameSet) : Decidable (name ∈ s) :=
  inferInstanceAs (Decidable (name ∈ s.names))

/-- Whether there are no members. -/
def isEmpty (s : NameSet) : Bool := s.names.isEmpty

/-- Puts a name at its place in an ascending list, unless it is there. -/
def place (name : String) : List String → List String
  | [] => [name]
  | first :: rest =>
    if name < first then name :: first :: rest
    else if name = first then first :: rest
    else first :: place name rest

theorem mem_place {name x : String} {l : List String} :
    x ∈ place name l ↔ x = name ∨ x ∈ l := by
  induction l with
  | nil => simp [place]
  | cons first rest ih =>
    simp only [place]
    split
    · simp
    · split
      · next h => subst h; simp
      · simp only [List.mem_cons, ih]
        constructor
        · rintro (h | h | h) <;> simp [h]
        · rintro (h | h | h) <;> simp [h]

theorem pairwise_place {name : String} {l : List String} (h : l.Pairwise (· < ·)) :
    (place name l).Pairwise (· < ·) := by
  induction l with
  | nil => simp [place]
  | cons first rest ih =>
    obtain ⟨hfirst, hrest⟩ := List.pairwise_cons.1 h
    simp only [place]
    split
    · next hlt =>
      refine List.pairwise_cons.2 ⟨fun x hx => ?_, h⟩
      rcases List.mem_cons.1 hx with rfl | hx
      · exact hlt
      · exact String.lt_trans hlt (hfirst x hx)
    · split
      · exact h
      · refine List.pairwise_cons.2 ⟨fun x hx => ?_, ih hrest⟩
        rcases mem_place.1 hx with rfl | hx
        · grind
        · exact hfirst x hx

/-- Adds a name. -/
def insert (s : NameSet) (name : String) : NameSet :=
  ⟨place name s.names, pairwise_place s.ascending⟩

/-- The set of the names in a list. -/
def ofList (names : List String) : NameSet :=
  names.foldr (fun name s => s.insert name) empty

theorem mem_def {name : String} {s : NameSet} : name ∈ s ↔ name ∈ s.names := Iff.rfl

@[simp] theorem mem_insert {s : NameSet} {name x : String} :
    x ∈ s.insert name ↔ x = name ∨ x ∈ s := mem_place

@[simp] theorem mem_ofList {names : List String} {x : String} :
    x ∈ ofList names ↔ x ∈ names := by
  induction names with
  | nil => simp [ofList, empty, mem_def]
  | cons name rest ih =>
    show x ∈ (ofList rest).insert name ↔ _
    rw [mem_insert, ih, List.mem_cons]

/-- Two ascending lists with the same members are equal. -/
theorem eq_of_mem_iff {l m : List String} (hl : l.Pairwise (· < ·)) (hm : m.Pairwise (· < ·))
    (h : ∀ x, x ∈ l ↔ x ∈ m) : l = m := by
  induction l generalizing m with
  | nil =>
    cases m with
    | nil => rfl
    | cons y m => exact absurd ((h y).2 (by simp)) (by simp)
  | cons x l ih =>
    cases m with
    | nil => exact absurd ((h x).1 (by simp)) (by simp)
    | cons y m =>
      obtain ⟨hx, hl⟩ := List.pairwise_cons.1 hl
      obtain ⟨hy, hm'⟩ := List.pairwise_cons.1 hm
      have hxy : x = y := by
        rcases List.mem_cons.1 ((h x).1 (by simp)) with rfl | hxm
        · rfl
        · rcases List.mem_cons.1 ((h y).2 (by simp)) with rfl | hyl
          · rfl
          · exact absurd (hx y hyl) (String.lt_asymm (hy x hxm))
      subst hxy
      congr 1
      refine ih hl hm' fun z => ⟨fun hz => ?_, fun hz => ?_⟩
      · rcases List.mem_cons.1 ((h z).1 (List.mem_cons_of_mem _ hz)) with rfl | hz'
        · exact absurd (hx z hz) (String.lt_irrefl z)
        · exact hz'
      · rcases List.mem_cons.1 ((h z).2 (List.mem_cons_of_mem _ hz)) with rfl | hz'
        · exact absurd (hy z hz) (String.lt_irrefl z)
        · exact hz'

theorem ext_mem {s t : NameSet} (h : ∀ x, x ∈ s ↔ x ∈ t) : s = t := by
  obtain ⟨l, hl⟩ := s
  obtain ⟨m, hm⟩ := t
  cases eq_of_mem_iff hl hm h
  rfl

instance : DecidableEq NameSet := fun s t =>
  decidable_of_iff (s.names = t.names)
    ⟨fun h => ext_mem fun x => by rw [mem_def, mem_def, h], fun h => h ▸ rfl⟩

end NameSet
end Curriculum
