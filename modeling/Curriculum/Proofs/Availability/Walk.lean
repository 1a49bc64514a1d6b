import Curriculum.Availability
import Curriculum.Proofs.Levels
import Curriculum.Proofs.WorldGraph.Paths

/-!
# What is open and what is new

The walk over the levels of a world carries two lists of names from level to
level: what is open so far, and what the level before has earned. `carried`
says what they are after some levels, and `lookup_walkLevels` that the walk
computes a level from nothing else. What is carried is known by its members
only: `mem_carried` and `mem_earned_carried` trace a name back to the level
that has introduced it, and `mem_entryOf` to a world from which a path leads.

Main statement: `World.exists_computed`, for a world whose levels are numbered
from one on. A name is new at a level if the level declares it new or if the
level before states it, and it is open if it was open on entering the world, if
this level or one before it declares it new, or if a level before it states it.
-/

namespace Curriculum

/-- The level of a number declares a name new. -/
def World.introducesAt (w : World) (kind : Kind) (index : Int) (name : String) : Prop :=
  ∃ l, w.levels.get? index = some l ∧ name ∈ (l.info kind).new

/-- The level of a number has a statement of a name. -/
def World.statesAt (w : World) (index : Int) (name : String) : Prop :=
  ∃ l st, w.levels.get? index = some l ∧ l.statement = some st ∧ st.name = some name

/-- A statement that has a name makes it available to later levels, as a lemma. -/
theorem Level.mem_earnedOf_iff {l : Level} {kind : Kind} {name : String} :
    name ∈ l.earnedOf kind
      ↔ kind = .lemmas ∧ name ≠ "" ∧ ∃ st, l.statement = some st ∧ st.name = some name := by
  unfold earnedOf
  split
  · next hkind =>
    unfold earned
    split
    · next st hst =>
      simp only [hst, Option.mem_toList, Option.filter_eq_some_iff, decide_eq_true_eq, hkind,
        true_and, Option.some.injEq, exists_eq_left']
      exact and_comm
    · next hst => simp [hst]
  · next hkind => simp [hkind]

theorem Level.mem_earnedOf {l : Level} {kind : Kind} {name : String} (hname : name ≠ "") :
    name ∈ l.earnedOf kind
      ↔ kind = .lemmas ∧ ∃ st, l.statement = some st ∧ st.name = some name := by
  rw [mem_earnedOf_iff]
  exact and_congr_right fun _ => and_iff_right hname

/-- What a world introduces is declared new or stated at one of its levels. -/
theorem World.mem_introduces {w : World} {kind : Kind} {name : String} (hname : name ≠ "") :
    name ∈ w.introduces kind
      ↔ ∃ index, w.introducesAt kind index name
          ∨ kind = .lemmas ∧ w.statesAt index name := by
  simp only [introduces, List.mem_flatMap, OrderedMap.mem_values_iff, List.mem_append,
    Level.mem_earnedOf hname]
  constructor
  · intro h
    rcases h with ⟨l, ⟨index, hl⟩, hnew | ⟨hkind, st, hst, hstate⟩⟩
    · exact ⟨index, .inl ⟨l, hl, hnew⟩⟩
    · exact ⟨index, .inr ⟨hkind, l, st, hl, hst, hstate⟩⟩
  · intro h
    rcases h with ⟨index, ⟨l, hl, hnew⟩ | ⟨hkind, l, st, hl, hst, hstate⟩⟩
    · exact ⟨l, ⟨index, hl⟩, .inl hnew⟩
    · exact ⟨l, ⟨index, hl⟩, .inr ⟨hkind, st, hst, hstate⟩⟩

/-- What is open on entering a world is introduced in another world from which a path leads. -/
theorem Game.mem_entryOf {game : Game} {graph : WorldGraph} {kind : Kind} {world name : String} :
    name ∈ game.entryOf graph kind world
      ↔ ∃ u w, u ∈ graph.ancestors world ∧ game.worlds.get? u = some w
          ∧ name ∈ w.introduces kind := by
  rw [entryOf, List.mem_flatMap]
  constructor
  · intro h
    obtain ⟨u, hu, hname⟩ := h
    split at hname
    · next w hw => exact ⟨u, w, hu, hw, hname⟩
    · exact absurd hname List.not_mem_nil
  · intro h
    obtain ⟨u, w, hu, hw, hname⟩ := h
    exact ⟨u, hu, by simpa only [hw] using hname⟩

/-! ## What is carried -/

/-- What is open and what has been earned after some levels, if `unlocked` is open and `earned` has
been earned before them. -/
def carried (kind : Kind) (unlocked earned : List String) : List Level → List String × List String
  | [] => (unlocked, earned)
  | l :: rest =>
    carried kind ((l.info kind).new.names ++ earned ++ unlocked) (l.earnedOf kind) rest

/-- What is carried was there before, or it was introduced on the way. -/
theorem mem_carried {kind : Kind} {unlocked earned : List String} {levels : List Level}
    {name : String} :
    name ∈ (carried kind unlocked earned levels).2 ∨ name ∈ (carried kind unlocked earned levels).1
      ↔ (name ∈ unlocked ∨ name ∈ earned)
        ∨ ∃ l ∈ levels, name ∈ (l.info kind).new ∨ name ∈ l.earnedOf kind := by
  induction levels generalizing unlocked earned with
  | nil => simp [carried, or_comm]
  | cons l rest ih =>
    simp only [carried, ih, List.mem_append, List.mem_cons, exists_eq_or_imp, NameSet.mem_def]
    -- Both sides are the same five alternatives.
    grind

/-- What has been earned is earned by the last level. -/
theorem earned_carried (kind : Kind) (unlocked earned : List String) (levels : List Level) :
    (carried kind unlocked earned levels).2
      = (levels.getLast?.map (·.earnedOf kind)).getD earned := by
  induction levels generalizing unlocked earned with
  | nil => rfl
  | cons l rest ih =>
    rw [carried, ih, List.getLast?_cons]
    cases rest.getLast? <;> rfl

/-- The walk computes a level from its own declarations and from what is carried to it. -/
theorem lookup_walkLevels (kind : Kind) (items : List Item) (unlocked earned : List String)
    {level : Int → Option Level} {before : List Int} (rest : List Int) {index : Int} {l : Level}
    (hbefore : ∀ j ∈ before, (level j).isSome) (hindex : index ∉ before)
    (hl : level index = some l) :
    ((before ++ index :: rest).zip (walkLevels kind items unlocked earned
        ((before ++ index :: rest).filterMap level))).lookup index
      = some (sortComputed (items.map (Item.project
          ((l.info kind).new.names
            ++ (carried kind unlocked earned (before.filterMap level)).2
            ++ (carried kind unlocked earned (before.filterMap level)).1)
          ((l.info kind).new.names ++ (carried kind unlocked earned (before.filterMap level)).2)
          (l.info kind)))) := by
  -- Induction on the levels before: each of them only moves what is carried.
  induction before generalizing unlocked earned with
  | nil =>
    rw [List.nil_append, List.filterMap_cons_some hl, walkLevels, List.zip_cons_cons,
      OrderedMap.lookup_cons_eq, if_pos rfl]
    rfl
  | cons j before ih =>
    rw [List.mem_cons, not_or] at hindex
    obtain ⟨hne, hindex⟩ := hindex
    obtain ⟨lj, hlj⟩ := Option.isSome_iff_exists.1 (hbefore j List.mem_cons_self)
    rw [List.cons_append, List.filterMap_cons_some hlj, List.filterMap_cons_some hlj, walkLevels,
      List.zip_cons_cons, OrderedMap.lookup_cons_eq, if_neg hne, carried]
    exact ih _ _ (fun j hj => hbefore j (List.mem_cons_of_mem _ hj)) hindex

/-! ## Numbers -/

theorem mem_numbersTo {n : Nat} {index : Int} : index ∈ numbersTo n ↔ 1 ≤ index ∧ index ≤ n := by
  simp only [numbersTo, List.mem_map, List.mem_range]
  constructor
  · intro h
    obtain ⟨i, hi, rfl⟩ := h
    omega
  · intro h
    obtain ⟨hone, hle⟩ := h
    exact ⟨(index - 1).toNat, by omega, by omega⟩

theorem numbersTo_succ (n : Nat) : numbersTo (n + 1) = numbersTo n ++ [(n : Int) + 1] := by
  rw [numbersTo, List.range_succ, List.map_append]
  rfl

/-- The numbers up to `n`, cut at one of them. -/
theorem exists_numbersTo_eq_append {k n : Nat} (h : k < n) :
    ∃ rest, numbersTo n = numbersTo k ++ ((k : Int) + 1) :: rest := by
  induction n with
  | zero => omega
  | succ n ih =>
    rw [numbersTo_succ]
    by_cases hk : k = n
    · subst hk
      exact ⟨[], rfl⟩
    · obtain ⟨rest, hrest⟩ := ih (by omega)
      exact ⟨rest ++ [(n : Int) + 1], by rw [hrest, List.append_assoc, List.cons_append]⟩

/-! ## Levels of a world -/

namespace World

variable {w : World} {kind : Kind}

/-- Levels that are numbered from one on have positive numbers. -/
theorem one_le_of_get? (hnum : w.numbers = numbersTo w.numbers.length) {index : Int} {l : Level}
    (hl : w.levels.get? index = some l) : 1 ≤ index := by
  have hmem : index ∈ w.numbers := mem_numbers_iff.2 ⟨l, hl⟩
  rw [hnum] at hmem
  exact (mem_numbersTo.1 hmem).1

/-- The levels before a level, when levels are numbered from one on. -/
theorem mem_filterMap_numbersTo (hnum : w.numbers = numbersTo w.numbers.length) {k : Nat}
    {l : Level} :
    l ∈ (numbersTo k).filterMap w.levels.get?
      ↔ ∃ index, index < (k : Int) + 1 ∧ w.levels.get? index = some l := by
  rw [List.mem_filterMap]
  constructor
  · intro h
    obtain ⟨index, hindex, hl⟩ := h
    exact ⟨index, by have := mem_numbersTo.1 hindex; omega, hl⟩
  · intro h
    obtain ⟨index, hindex, hl⟩ := h
    exact ⟨index, mem_numbersTo.2 ⟨one_le_of_get? hnum hl, by omega⟩, hl⟩

/-- The last of the levels before a level is the one before it. -/
theorem getLast?_filterMap_numbersTo (hnum : w.numbers = numbersTo w.numbers.length) {k : Nat}
    (hk : k ≤ w.numbers.length) :
    ((numbersTo k).filterMap w.levels.get?).getLast? = w.levels.get? k := by
  cases k with
  | zero =>
    -- There is no level before the first: no level has the number 0.
    cases hl : w.levels.get? (0 : Int) with
    | none => rfl
    | some l => exact absurd (one_le_of_get? hnum hl) (by omega)
  | succ k =>
    have hmem : (k : Int) + 1 ∈ w.numbers := by
      rw [hnum]
      exact mem_numbersTo.2 ⟨by omega, by omega⟩
    obtain ⟨l, hl⟩ := mem_numbers_iff.1 hmem
    rw [numbersTo_succ, List.filterMap_append, List.filterMap_cons_some hl, List.filterMap_nil,
      List.getLast?_append_of_ne_nil _ (by simp), List.getLast?_singleton, Int.natCast_succ, hl]

/-- What has been earned before a level is what the level before it states. -/
theorem mem_earned_carried (hnum : w.numbers = numbersTo w.numbers.length) {k : Nat}
    (hk : k ≤ w.numbers.length) (entry : List String) {name : String} (hname : name ≠ "") :
    name ∈ (carried kind entry [] ((numbersTo k).filterMap w.levels.get?)).2
      ↔ kind = .lemmas ∧ w.statesAt k name := by
  rw [earned_carried, getLast?_filterMap_numbersTo hnum hk]
  cases hl : w.levels.get? (k : Int) with
  | none => simp [statesAt, hl]
  | some l => simp [statesAt, hl, Level.mem_earnedOf hname]

/-- What is open or has been earned before a level was open on entering the world, or it is
introduced at a level before. -/
theorem mem_carried_numbersTo (hnum : w.numbers = numbersTo w.numbers.length) (k : Nat)
    (entry : List String) {name : String} (hname : name ≠ "") :
    name ∈ (carried kind entry [] ((numbersTo k).filterMap w.levels.get?)).2
        ∨ name ∈ (carried kind entry [] ((numbersTo k).filterMap w.levels.get?)).1
      ↔ name ∈ entry ∨ (∃ j < (k : Int) + 1, w.introducesAt kind j name)
        ∨ kind = .lemmas ∧ ∃ j < (k : Int) + 1, w.statesAt j name := by
  rw [mem_carried]
  simp only [List.not_mem_nil, or_false, mem_filterMap_numbersTo hnum, Level.mem_earnedOf hname]
  refine or_congr_right ⟨?_, ?_⟩
  · intro h
    rcases h with ⟨l, ⟨j, hj, hl⟩, hnew | ⟨hkind, st, hst, hstate⟩⟩
    · exact .inl ⟨j, hj, l, hl, hnew⟩
    · exact .inr ⟨hkind, j, hj, l, st, hl, hst, hstate⟩
  · intro h
    rcases h with ⟨j, hj, l, hl, hnew⟩ | ⟨hkind, j, hj, l, st, hl, hst, hstate⟩
    · exact ⟨l, ⟨j, hj, hl⟩, .inl hnew⟩
    · exact ⟨l, ⟨j, hj, hl⟩, .inr ⟨hkind, st, hst, hstate⟩⟩

/-- A name is declared new up to a level if it is at that level or at one before. -/
theorem introducesAt_le_iff {index : Int} {name : String} :
    (∃ j ≤ index, w.introducesAt kind j name)
      ↔ w.introducesAt kind index name ∨ ∃ j < index, w.introducesAt kind j name := by
  constructor
  · intro h
    obtain ⟨j, hj, hnew⟩ := h
    rcases Int.lt_or_eq_of_le hj with hlt | rfl
    · exact .inr ⟨j, hlt, hnew⟩
    · exact .inl hnew
  · intro h
    rcases h with hnew | ⟨j, hj, hnew⟩
    · exact ⟨index, Int.le_refl _, hnew⟩
    · exact ⟨j, Int.le_of_lt hj, hnew⟩

/-- **What is computed at a level** of a world whose levels are numbered from one on. -/
theorem exists_computed (hnum : w.numbers = numbersTo w.numbers.length) {index : Int} {l : Level}
    (hl : w.levels.get? index = some l) (kind : Kind) (items : List Item) (entry : List String) :
    ∃ unlocked fresh,
      (w.numbers.zip (walkLevels kind items entry [] w.orderedLevels)).lookup index
          = some (sortComputed (items.map (Item.project unlocked fresh (l.info kind))))
        ∧ (∀ name, name ≠ "" → (name ∈ fresh
            ↔ w.introducesAt kind index name
              ∨ kind = .lemmas ∧ 1 < index ∧ w.statesAt (index - 1) name))
        ∧ ∀ name, name ≠ "" → (name ∈ unlocked
            ↔ name ∈ entry ∨ (∃ j ≤ index, w.introducesAt kind j name)
              ∨ kind = .lemmas ∧ ∃ j < index, w.statesAt j name) := by
  have hmem : index ∈ numbersTo w.numbers.length := hnum ▸ mem_numbers_iff.2 ⟨l, hl⟩
  obtain ⟨k, rfl⟩ : ∃ k : Nat, index = (k : Int) + 1 :=
    ⟨(index - 1).toNat, by have := mem_numbersTo.1 hmem; omega⟩
  have hk : k < w.numbers.length := by
    have := mem_numbersTo.1 hmem
    omega
  obtain ⟨rest, hrest⟩ := exists_numbersTo_eq_append hk
  have hbefore : ∀ j ∈ numbersTo k, (w.levels.get? j).isSome := by
    intro j hj
    refine Option.isSome_iff_exists.2 (mem_numbers_iff.1 ?_)
    rw [hnum, hrest]
    exact List.mem_append_left _ hj
  have hnotin : (k : Int) + 1 ∉ numbersTo k := fun h => by
    have := mem_numbersTo.1 h
    omega
  have hlookup := lookup_walkLevels kind items entry [] rest hbefore hnotin hl
  rw [← hrest, ← hnum] at hlookup
  have hnew : ∀ name, name ∈ (l.info kind).new.names
      ↔ w.introducesAt kind ((k : Int) + 1) name := by
    intro name
    simp [introducesAt, hl, NameSet.mem_def]
  refine ⟨_, _, hlookup, fun name hname => ?_, fun name hname => ?_⟩
  · -- A level that states something is numbered, so `1 < index` follows and may be added.
    have hstates : w.statesAt k name ↔ 1 < (k : Int) + 1 ∧ w.statesAt ((k : Int) + 1 - 1) name := by
      rw [Int.add_sub_cancel, and_iff_right_of_imp]
      intro h
      obtain ⟨lk, st, hlk, -⟩ := h
      have := one_le_of_get? hnum hlk
      omega
    rw [List.mem_append, hnew, mem_earned_carried hnum (Nat.le_of_lt hk) entry hname, hstates]
  · rw [List.mem_append, List.mem_append, hnew, introducesAt_le_iff, or_assoc,
      mem_carried_numbersTo hnum k entry hname]
    exact or_left_comm.trans (or_congr_right or_assoc.symm)

end World
end Curriculum
