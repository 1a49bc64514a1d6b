import Curriculum.Failure
import Curriculum.WorldGraph.Basic

/-!
# Cycles of a world graph

A depth-first search from every world in turn. The search follows the edges of
a world in their order; the first edge that leads back to a world on the
current path closes the cycle that is reported. Worlds that the search has
finished with are not entered again, so every world is entered at most once:
the list of worlds not yet seen only shrinks, which is why the search ends.
-/

namespace Curriculum.WorldGraph

/-- The edges of the cycle that is closed by going from the head of `path` to `world`. The path is
given last world first, and `world` is on it. -/
def closeCycle (path : List String) (world : String) : List (String × String) :=
  let loop := world :: (path.takeWhile (· ≠ world)).reverse
  loop.zip (loop.drop 1 ++ [world])

/-- Searches on from the worlds of `next`, all of them reached from the head of `path`. The outcome
is a cycle, or the worlds that are still not seen afterwards. -/
def explore (g : WorldGraph) (path next unseen : List String) :
    Except (List (String × String)) { rest : List String // rest.length ≤ unseen.length } :=
  match next with
  | [] => .ok ⟨unseen, Nat.le_refl _⟩
  | world :: more =>
    if world ∈ path then .error (closeCycle path world)
    else if h : world ∈ unseen then
      have shorter : (unseen.erase world).length < unseen.length := by
        have := List.length_pos_of_mem h
        rw [List.length_erase_of_mem h]
        omega
      match explore g (world :: path) (g.successors world) (unseen.erase world) with
      | .error cycle => .error cycle
      | .ok ⟨rest, hrest⟩ =>
        match explore g path more rest with
        | .error cycle => .error cycle
        | .ok ⟨rest', hrest'⟩ => .ok ⟨rest', by omega⟩
    else explore g path more unseen
termination_by unseen.length * (g.edges.length + 1) + next.length
decreasing_by
  · have := Nat.mul_le_mul_right (g.edges.length + 1) shorter
    have := g.length_successors_le world
    rw [Nat.succ_mul] at *
    omega
  · have := Nat.mul_le_mul_right (g.edges.length + 1) (Nat.le_trans hrest (Nat.le_of_lt shorter))
    simp only [List.length_cons]
    omega
  · simp only [List.length_cons]
    omega

/-- The edges of one cycle, or nothing if there is none. -/
def findCycle (g : WorldGraph) : List (String × String) :=
  match g.explore [] g.worlds g.worlds with
  | .error cycle => cycle
  | .ok _ => []

/-! ## Refusing cycles -/

/-- Fails if some worlds wait for each other. -/
def validate (g : WorldGraph) : Except Failure Unit :=
  if g.findCycle ≠ [] then .error (.cyclicWorlds g.findCycle) else .ok ()

theorem validate_eq_ok_iff {g : WorldGraph} : g.validate = .ok () ↔ g.findCycle = [] := by
  unfold validate
  split
  · next h => exact ⟨fun h' => absurd h' (by simp), fun h' => absurd h' h⟩
  · next h => exact ⟨fun _ => Decidable.not_not.1 h, fun _ => rfl⟩

theorem validate_eq_error_iff {g : WorldGraph} {failure : Failure} :
    g.validate = .error failure ↔ g.findCycle ≠ [] ∧ failure = .cyclicWorlds g.findCycle := by
  unfold validate
  split
  · next h => exact ⟨fun h' => ⟨h, (Except.error.inj h').symm⟩, fun h' => h'.2 ▸ rfl⟩
  · next h => exact ⟨fun h' => absurd h' (by simp), fun h' => absurd h'.1 h⟩

/-! ## Peeling

A second test for cycles, which does not find one: take away all worlds that no
remaining world leads to, again and again. What cannot be taken away is held in
place by a cycle.
-/

/-- Whether no edge leads from one of the remaining worlds to `world`. -/
def isReady (g : WorldGraph) (remaining : List String) (world : String) : Bool :=
  (g.directPredecessors world).all (· ∉ remaining)

/-- The remaining worlds that some remaining world leads to. -/
def waiting (g : WorldGraph) (remaining : List String) : List String :=
  remaining.filter fun world => !g.isReady remaining world

/-- The worlds that cannot be taken away. -/
def peel (g : WorldGraph) (remaining : List String) : List String :=
  if h : remaining.any (g.isReady remaining) then
    have : (g.waiting remaining).length < remaining.length := length_filter_not_lt h
    peel g (g.waiting remaining)
  else remaining
termination_by remaining.length

/-- Whether some worlds wait for each other. -/
def hasCycle (g : WorldGraph) : Bool := !(g.peel g.worlds).isEmpty

end Curriculum.WorldGraph
