import Mathlib.Data.List.Sort
import Curriculum.Proofs.Availability.Outcome
import Curriculum.Proofs.Reordering

/-!
# Why a game is refused

A game is looked at before anything is computed. Worlds that lie on a cycle are
found first, then a world of the graph that was never declared, then a world
whose levels are not numbered from one on. Each of the searches stops at its
first find: `Game.Refusal` lists what is found and in which order, and
`validate_eq_error_iff` says that this is what the validation does, for games
whose levels have positive numbers.

A world with a gap always has something to report: the greatest of its numbers
is not the count of its levels, so a number below it is missing
(`World.isGaps_missingNumbers`).
-/

namespace Curriculum

/-- The first element of a list with a property. -/
def IsFirst {α : Type u} (P : α → Prop) (l : List α) (a : α) : Prop :=
  P a ∧ ∃ before rest, l = before ++ a :: rest ∧ ∀ b ∈ before, ¬ P b

theorem find?_eq_some_iff_isFirst {α : Type u} {p : α → Bool} {P : α → Prop}
    (hp : ∀ a, p a = true ↔ P a) {l : List α} {a : α} : l.find? p = some a ↔ IsFirst P l a := by
  simp only [List.find?_eq_some_iff_append, IsFirst, hp, Bool.not_eq_true', ← Bool.not_eq_true]

/-! ## Numbers without a gap -/

theorem pairwise_numbersTo (n : Nat) : (numbersTo n).Pairwise (· < ·) := by
  rw [numbersTo, List.pairwise_map]
  exact List.pairwise_lt_range.imp fun h => by omega

theorem length_numbersTo (n : Nat) : (numbersTo n).length = n := by
  rw [numbersTo, List.length_map, List.length_range]

/-- The greatest number of an ascending list stands at its end. -/
theorem le_getLastD {l : List Int} (hl : l.Pairwise (· < ·)) {k : Int} (hk : k ∈ l) :
    k ≤ l.getLastD 0 ∧ l.getLastD 0 ∈ l := by
  have hne : l ≠ [] := List.ne_nil_of_mem hk
  have hlast : l.getLastD 0 = l.getLast hne := by
    rw [List.getLastD_eq_getLast?, List.getLast?_eq_some_getLast hne, Option.getD_some]
  rw [hlast]
  refine ⟨?_, List.getLast_mem hne⟩
  rw [← List.dropLast_append_getLast hne] at hl hk
  rcases List.mem_append.1 hk with hbefore | hend
  · have hlt := (List.pairwise_append.1 hl).2.2 k hbefore _ (List.mem_singleton_self _)
    omega
  · exact le_of_eq (List.mem_singleton.1 hend)

namespace World

variable {w : World}

/-- The levels have the numbers from one to some number, and no others. -/
def Contiguous (w : World) : Prop :=
  ∃ n : Nat, ∀ index, index ∈ w.levels.keys ↔ 1 ≤ index ∧ index ≤ n

/-- The numbers that are missing below the greatest number of a world: some number is, and they are
listed in ascending order. -/
structure IsGaps (w : World) (missing : List Int) : Prop where
  ne_nil : missing ≠ []
  ascending : missing.Pairwise (· < ·)
  mem_iff : ∀ k, k ∈ missing ↔ 1 ≤ k ∧ k ∉ w.levels.keys ∧ ∃ m ∈ w.levels.keys, k ≤ m

/-- There is only one such list. -/
theorem IsGaps.unique {missing missing' : List Int} (h : w.IsGaps missing)
    (h' : w.IsGaps missing') : missing = missing' :=
  h.ascending.eq_of_mem_iff h'.ascending fun k => (h.mem_iff k).trans (h'.mem_iff k).symm

theorem mem_numbers {index : Int} : index ∈ w.numbers ↔ index ∈ w.levels.keys := mem_sortBy

theorem pairwise_numbers (w : World) : w.numbers.Pairwise (· < ·) := by
  refine pairwise_lt_sortBy (fun _ _ => decide_eq_true_iff (p := _ ≤ _)) ?_
  rw [List.map_id']
  exact w.levels.nodup

/-- Levels are numbered from one on exactly if the ascending list of their numbers is the one that
starts with one. -/
theorem numbers_eq_iff : w.numbers = numbersTo w.numbers.length ↔ w.Contiguous := by
  constructor
  · intro h
    refine ⟨w.numbers.length, fun index => ?_⟩
    have hmem : index ∈ numbersTo w.numbers.length ↔ 1 ≤ index ∧ index ≤ w.numbers.length :=
      mem_numbersTo
    rw [← h] at hmem
    exact mem_numbers.symm.trans hmem
  · intro h
    obtain ⟨n, hn⟩ := h
    have heq : w.numbers = numbersTo n := by
      refine w.pairwise_numbers.eq_of_mem_iff (pairwise_numbersTo n) fun index => ?_
      rw [mem_numbers, hn, mem_numbersTo]
    rw [heq, length_numbersTo]

theorem mem_missingNumbers {k : Int} :
    k ∈ w.missingNumbers ↔ 1 ≤ k ∧ k ∉ w.levels.keys ∧ ∃ m ∈ w.levels.keys, k ≤ m := by
  simp only [missingNumbers, List.mem_filter, mem_numbersTo, decide_eq_true_eq, mem_numbers]
  constructor
  · intro h
    obtain ⟨⟨hone, hle⟩, hk⟩ := h
    refine ⟨hone, hk, w.numbers.getLastD 0, ?_, by omega⟩
    -- A world without levels has no greatest number, and nothing is missing from it.
    cases hnumbers : w.numbers with
    | nil =>
      rw [hnumbers] at hle
      simp at hle
      omega
    | cons first rest =>
      have hfirst : first ∈ w.numbers := hnumbers ▸ List.mem_cons_self
      rw [← hnumbers]
      exact mem_numbers.1 (le_getLastD w.pairwise_numbers hfirst).2
  · intro h
    obtain ⟨hone, hk, m, hm, hle⟩ := h
    have hgreatest := (le_getLastD w.pairwise_numbers (mem_numbers.2 hm)).1
    exact ⟨⟨hone, by omega⟩, hk⟩

/-- What is reported of a world with a gap. -/
theorem isGaps_missingNumbers (hpos : ∀ index ∈ w.levels.keys, 1 ≤ index) (h : ¬ w.Contiguous) :
    w.IsGaps w.missingNumbers where
  ne_nil := by
    intro hnil
    refine h ⟨(w.numbers.getLastD 0).toNat, fun index => ⟨fun hindex => ?_, fun hindex => ?_⟩⟩
    · have hgreatest := (le_getLastD w.pairwise_numbers (mem_numbers.2 hindex)).1
      have hone := hpos index hindex
      exact ⟨hone, by omega⟩
    · -- A number up to the greatest one that has no level would be missing.
      refine Decidable.byContradiction fun hnot => ?_
      have hmem : index ∈ w.missingNumbers :=
        List.mem_filter.2 ⟨mem_numbersTo.2 hindex, by simpa [mem_numbers] using hnot⟩
      rw [hnil] at hmem
      exact List.not_mem_nil hmem
  ascending := (pairwise_numbersTo _).filter _
  mem_iff _ := mem_missingNumbers

end World

/-! ## The three searches -/

namespace Game

variable {game : Game} {graph : WorldGraph}

/-- What a game is refused for. A cycle comes first, then the first world of the graph that is not
declared, then the first world with a gap between its levels. -/
inductive Refusal (game : Game) (graph : WorldGraph) : Failure → Prop where
  | cyclic (hcycle : ∃ w, graph.Path w w) : Refusal game graph (.cyclicWorlds graph.findCycle)
  | undeclared (world : String) (hacyclic : ∀ w, ¬ graph.Path w w)
    (hfirst : IsFirst (· ∉ game.worlds.keys) graph.worlds world) :
    Refusal game graph (.undeclaredWorld world)
  | misnumbered (w : World) (missing : List Int) (hacyclic : ∀ w, ¬ graph.Path w w)
    (hdeclared : ∀ world ∈ graph.worlds, world ∈ game.worlds.keys)
    (hfirst : IsFirst (¬ ·.Contiguous) game.worlds.values w) (hmissing : w.IsGaps missing) :
    Refusal game graph (.missingLevels w.id missing)

theorem findCycle_ne_nil_iff : graph.findCycle ≠ [] ↔ ∃ w, graph.Path w w := by
  rw [ne_eq, WorldGraph.findCycle_eq_nil_iff, not_forall_not]

theorem find?_worlds_eq_some_iff {world : String} :
    (graph.worlds.find? fun world => !game.worlds.contains world) = some world
      ↔ IsFirst (· ∉ game.worlds.keys) graph.worlds world :=
  find?_eq_some_iff_isFirst fun world => by
    simp [OrderedMap.contains_eq_isSome, OrderedMap.mem_keys_iff_isSome]

theorem find?_numbers_eq_some_iff {w : World} :
    (game.worlds.values.find? fun w => w.numbers ≠ numbersTo w.numbers.length) = some w
      ↔ IsFirst (¬ ·.Contiguous) game.worlds.values w :=
  find?_eq_some_iff_isFirst fun w => by
    rw [decide_eq_true_eq, ne_eq, World.numbers_eq_iff]

/-- A game passes if no world lies on a cycle, all worlds of the graph are declared, and no world
has a gap between its levels. -/
theorem validate_eq_ok_iff_contiguous :
    game.validate graph = .ok ()
      ↔ (∀ w, ¬ graph.Path w w) ∧ (∀ world ∈ graph.worlds, world ∈ game.worlds.keys)
        ∧ ∀ w ∈ game.worlds.values, w.Contiguous := by
  rw [validate_eq_ok_iff, WorldGraph.findCycle_eq_nil_iff]
  simp only [OrderedMap.mem_keys_iff_isSome, OrderedMap.mem_values_iff, World.numbers_eq_iff,
    forall_exists_index]
  rw [forall_comm (α := String) (β := World)]

/-- **A game is refused** for what is found first. -/
theorem validate_eq_error_iff
    (hpos : ∀ w ∈ game.worlds.values, ∀ index ∈ w.levels.keys, 1 ≤ index) {failure : Failure} :
    game.validate graph = .error failure ↔ game.Refusal graph failure := by
  constructor
  · intro h
    unfold validate at h
    split at h
    · next failure' hvalid =>
      obtain rfl := Except.error.inj h
      obtain ⟨hcycle, rfl⟩ := WorldGraph.validate_eq_error_iff.1 hvalid
      exact .cyclic (findCycle_ne_nil_iff.1 hcycle)
    · next hvalid =>
      have hacyclic : ∀ w, ¬ graph.Path w w :=
        WorldGraph.findCycle_eq_nil_iff.1 (WorldGraph.validate_eq_ok_iff.1 hvalid)
      split at h
      · next world hworld =>
        obtain rfl := Except.error.inj h
        exact .undeclared world hacyclic (find?_worlds_eq_some_iff.1 hworld)
      · next hworlds =>
        have hdeclared : ∀ world ∈ graph.worlds, world ∈ game.worlds.keys := fun world hworld =>
          OrderedMap.mem_keys_iff_isSome.2 (find?_worlds_eq_none_iff.1 hworlds world hworld)
        split at h
        · next w hw =>
          obtain rfl := Except.error.inj h
          have hfirst := find?_numbers_eq_some_iff.1 hw
          exact .misnumbered w _ hacyclic hdeclared hfirst
            (World.isGaps_missingNumbers (hpos w (List.mem_of_find?_eq_some hw)) hfirst.1)
        · exact absurd h (by simp)
  · intro h
    unfold validate
    cases h with
    | cyclic hcycle =>
      rw [WorldGraph.validate_eq_error_iff.2 ⟨findCycle_ne_nil_iff.2 hcycle, rfl⟩]
    | undeclared world hacyclic hfirst =>
      rw [WorldGraph.validate_eq_ok_iff.2 (WorldGraph.findCycle_eq_nil_iff.2 hacyclic),
        find?_worlds_eq_some_iff.2 hfirst]
    | misnumbered w missing hacyclic hdeclared hfirst hmissing =>
      have hworlds := find?_worlds_eq_none_iff.2 fun world hworld =>
        OrderedMap.mem_keys_iff_isSome.1 (hdeclared world hworld)
      have hw : w ∈ game.worlds.values := by
        obtain ⟨before, rest, heq, -⟩ := hfirst.2
        exact heq ▸ List.mem_append_right _ List.mem_cons_self
      rw [WorldGraph.validate_eq_ok_iff.2 (WorldGraph.findCycle_eq_nil_iff.2 hacyclic), hworlds,
        find?_numbers_eq_some_iff.2 hfirst]
      dsimp only
      rw [(World.isGaps_missingNumbers (hpos w hw) hfirst.1).unique hmissing]

/-- A game that is refused is left as it is. -/
theorem compile_of_validate_error {failure : Failure} (h : game.validate graph = .error failure)
    (catalogue : Catalogue) (ds : Declarations) (notFound : String) :
    game.compile graph catalogue ds notFound = ⟨game, catalogue, [], .error failure⟩ := by
  rw [compile, h]

/-! ## The bundle -/

/-- The worlds of a bundle are those of the graph, each of them once and as it is in the game, in
an order in which every path leads forward. -/
theorem worlds_of_bundle (hid : ∀ world w, game.worlds.get? world = some w → w.id = world)
    (hdeclared : ∀ world ∈ graph.worlds, world ∈ game.worlds.keys) {catalogue : Catalogue}
    {bundle : Bundle} (h : game.bundle graph catalogue = .ok bundle) :
    (bundle.worlds.map (·.id)).Perm graph.worlds
      ∧ (∀ w ∈ bundle.worlds, game.worlds.get? w.id = some w)
      ∧ ∀ u v, graph.Path u v →
        (bundle.worlds.map (·.id)).idxOf u < (bundle.worlds.map (·.id)).idxOf v := by
  unfold Game.bundle at h
  split at h
  · exact absurd h (by simp)
  · next worldMap hmap =>
    obtain ⟨order, horder, rfl⟩ := Option.map_eq_some_iff.1 hmap
    obtain rfl := Except.ok.inj h
    have hplay := WorldGraph.isPlayOrder_of_topologicalOrder horder
    have hworlds : (order.filterMap game.worlds.get?).map (·.id) = order := by
      rw [List.map_filterMap]
      calc order.filterMap (fun world => (game.worlds.get? world).map (·.id))
          = order.filterMap some := List.filterMap_congr fun world hworld => by
            have hkey := hdeclared world (hplay.perm.mem_iff.1 hworld)
            obtain ⟨w, hw⟩ := OrderedMap.mem_keys_iff.1 hkey
            rw [hw, Option.map_some, hid world w hw]
        _ = order := List.filterMap_some
    dsimp only
    rw [hworlds]
    refine ⟨hplay.perm, fun w hw => ?_, fun u v hpath => hplay.idxOf_lt_of_path hpath⟩
    obtain ⟨world, -, hget⟩ := List.mem_filterMap.1 hw
    rw [hid world w hget, hget]

end Game
end Curriculum
