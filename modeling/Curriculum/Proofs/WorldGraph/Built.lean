import Curriculum.Proofs.WorldGraph.Paths

/-!
# The ancestors in a graph that was built

A graph is built by adding worlds and edges, in any order and as often as one
likes. What it has can be read off the list of what was added: adding something
again changes nothing, and nothing is ever taken away (`mem_worlds_built`,
`edge_built`). So where one can get to is a matter of that list alone, `Leads`,
whichever way the graph keeps its edges.

Main statement: `ancestors_built`. The backward search finds the worlds that lead
to a world, on graphs with cycles too. It leaves the world itself out, and away
from cycles it finds less the further back it starts.
-/

namespace Curriculum.WorldGraph

/-! ## Building -/

/-- What can be added to a graph. -/
inductive Addition where
  | world (world : String)
  | edge (source target : String)
deriving DecidableEq, Repr

/-- The worlds that an addition is about. -/
def Addition.worlds : Addition → List String
  | world w => [w]
  | edge source target => [source, target]

/-- The graph with one more addition. -/
def add (g : WorldGraph) : Addition → WorldGraph
  | .world w => g.addWorld w
  | .edge source target => g.addEdge source target

/-- The graph that additions make. -/
def built (additions : List Addition) : WorldGraph := additions.foldl add empty

variable {additions : List Addition} {u v w : String}

theorem mem_worlds_add {g : WorldGraph} {a : Addition} :
    w ∈ (g.add a).worlds ↔ w ∈ g.worlds ∨ w ∈ a.worlds := by
  cases a with
  | world world => simp [add, addWorld, Addition.worlds, mem_appendNew]
  | edge source target => simp [add, addEdge, Addition.worlds, mem_appendNew, or_assoc]

theorem edge_add {g : WorldGraph} {a : Addition} :
    (g.add a).Edge u v ↔ g.Edge u v ∨ a = .edge u v := by
  cases a with
  | world world => simp [add, addWorld, Edge]
  | edge source target => simp [add, addEdge, Edge, mem_appendNew, eq_comm]

/-- The worlds are those that something was added about. -/
theorem mem_worlds_built : w ∈ (built additions).worlds ↔ ∃ a ∈ additions, w ∈ a.worlds := by
  have hfold : ∀ g : WorldGraph, w ∈ (additions.foldl add g).worlds
      ↔ w ∈ g.worlds ∨ ∃ a ∈ additions, w ∈ a.worlds := by
    intro g
    induction additions generalizing g with
    | nil => simp
    | cons a rest ih => simp only [List.foldl_cons, ih, mem_worlds_add, List.exists_mem_cons_iff,
        or_assoc]
  rw [built, hfold]
  exact or_iff_right List.not_mem_nil

/-- The edges are those that were added. -/
theorem edge_built : (built additions).Edge u v ↔ Addition.edge u v ∈ additions := by
  have hfold : ∀ g : WorldGraph, (additions.foldl add g).Edge u v
      ↔ g.Edge u v ∨ Addition.edge u v ∈ additions := by
    intro g
    induction additions generalizing g with
    | nil => simp
    | cons a rest ih => simp only [List.foldl_cons, ih, edge_add, List.mem_cons, or_assoc, eq_comm]
  rw [built, hfold]
  exact or_iff_right List.not_mem_nil

/-! ## Ancestors -/

/-- From one world to another by one edge that was added or several in a row. -/
abbrev Leads (additions : List Addition) : String → String → Prop :=
  Relation.TransGen fun u v => Addition.edge u v ∈ additions

theorem path_built : (built additions).Path = Leads additions := by
  have hedge : (built additions).Edge = fun u v => Addition.edge u v ∈ additions :=
    funext₂ fun _ _ => propext edge_built
  rw [Path, hedge]

/-- A world that leads to another one, which does not lead to itself, has fewer ancestors. -/
theorem ancestors_of_ancestor {g : WorldGraph} (hw : ¬ g.Path w w) (hu : u ∈ g.ancestors w) :
    (∀ v ∈ g.ancestors u, v ∈ g.ancestors w) ∧ u ∉ g.ancestors u := by
  obtain ⟨-, huw⟩ := mem_ancestors_iff.1 hu
  constructor
  · intro v hv
    obtain ⟨-, hvu⟩ := mem_ancestors_iff.1 hv
    refine mem_ancestors_iff.2 ⟨?_, hvu.trans huw⟩
    -- Otherwise there is a way from `w` to `u` and back.
    rintro rfl
    exact hw (hvu.trans huw)
  · intro h
    exact (mem_ancestors_iff.1 h).1 rfl

/-- **Ancestors.** In any graph that was built, with cycles or without, the ancestors of a world are
the other worlds that lead to it, and a world that nothing was added about has none. If a world does
not lead to itself, which no world does where there are no cycles, then each of its ancestors has
some of its ancestors and not all of them. -/
theorem ancestors_built (additions : List Addition) (w : String) :
    (∀ u, u ∈ (built additions).ancestors w ↔ u ≠ w ∧ Leads additions u w)
      ∧ ((∀ a ∈ additions, w ∉ a.worlds) → (built additions).ancestors w = .empty)
      ∧ (¬ Leads additions w w → ∀ u ∈ (built additions).ancestors w,
        (∀ v ∈ (built additions).ancestors u, v ∈ (built additions).ancestors w)
          ∧ ∃ v ∈ (built additions).ancestors w, v ∉ (built additions).ancestors u) := by
  refine ⟨fun u => ?_, fun hunknown => ?_, fun hacyclic u hu => ?_⟩
  · rw [mem_ancestors_iff, path_built]
  · have hw : w ∉ (built additions).worlds := by
      rw [mem_worlds_built]
      rintro ⟨a, ha, hmem⟩
      exact hunknown a ha hmem
    rw [ancestors, if_neg hw]
  · rw [← path_built] at hacyclic
    obtain ⟨hsub, hself⟩ := ancestors_of_ancestor hacyclic hu
    exact ⟨hsub, u, hu, hself⟩

/-- Two worlds that wait for each other, with a third one after them, and a world on its own. -/
def loopBeforeC : List Addition := [.edge "A" "B", .edge "B" "A", .edge "B" "C", .world "D"]

/-- The loop is before `C`, and `A` has only `B` before it. Nothing is known of `E`. -/
theorem ancestors_loopBeforeC :
    ("A" ∈ (built loopBeforeC).ancestors "C" ∧ "C" ∉ (built loopBeforeC).ancestors "C")
      ∧ (built loopBeforeC).ancestors "E" = .empty
      ∧ ∃ v ∈ (built loopBeforeC).ancestors "C", v ∉ (built loopBeforeC).ancestors "A" := by
  have hAB : Addition.edge "A" "B" ∈ loopBeforeC := by decide
  have hBC : Addition.edge "B" "C" ∈ loopBeforeC := by decide
  have hacyclic : ¬ Leads loopBeforeC "C" "C" := by
    -- No edge starts at `C`.
    intro h
    obtain ⟨v, hedge, -⟩ := Relation.TransGen.head'_iff.1 h
    simp [loopBeforeC] at hedge
  obtain ⟨hmem, -, hfewer⟩ := ancestors_built loopBeforeC "C"
  have hA : "A" ∈ (built loopBeforeC).ancestors "C" :=
    (hmem "A").2 ⟨by decide, .tail (.single hAB) hBC⟩
  refine ⟨⟨hA, fun h => ((hmem "C").1 h).1 rfl⟩, ?_, (hfewer hacyclic "A" hA).2⟩
  exact (ancestors_built loopBeforeC "E").2.1 (by decide)

end Curriculum.WorldGraph
