import Curriculum.NameSet

/-!
# World graphs

Worlds and the paths between them: an edge from `u` to `v` says that `u` is to
be played before `v`. Worlds and edges are kept in the order in which they were
first added; adding one again changes nothing. The ends of every edge are
worlds of the graph.
-/

namespace Curriculum

/-- A directed graph of worlds. -/
structure WorldGraph where
  /-- The worlds, oldest first. -/
  worlds : List String
  /-- The edges, oldest first. -/
  edges : List (String × String)
  worlds_nodup : worlds.Nodup
  edges_nodup : edges.Nodup
  /-- Both ends of an edge are worlds of the graph. -/
  ends_mem : ∀ e ∈ edges, e.1 ∈ worlds ∧ e.2 ∈ worlds
deriving DecidableEq

/-- Adds an element at the end of a list that does not have it yet. -/
def appendNew [DecidableEq α] (a : α) (l : List α) : List α := if a ∈ l then l else l ++ [a]

theorem mem_appendNew [DecidableEq α] {a x : α} {l : List α} :
    x ∈ appendNew a l ↔ x ∈ l ∨ x = a := by
  unfold appendNew
  split
  · next h => exact ⟨.inl, fun hx => hx.elim id fun he => he ▸ h⟩
  · simp

theorem nodup_appendNew [DecidableEq α] {a : α} {l : List α} (h : l.Nodup) :
    (appendNew a l).Nodup := by
  unfold appendNew
  split
  · exact h
  · next ha =>
    refine List.nodup_append.2 ⟨h, by simp, ?_⟩
    intro x hx y hy hxy
    rw [List.mem_singleton.1 hy] at hxy
    exact ha (hxy ▸ hx)

/-- Taking away the elements of a class makes a list shorter if there are any. -/
theorem length_filter_not_lt {p : α → Bool} {l : List α} (h : l.any p = true) :
    (l.filter fun a => !p a).length < l.length := by
  obtain ⟨a, ha, hp⟩ := List.any_eq_true.1 h
  exact List.length_filter_lt_length_iff_exists.2 ⟨a, ha, by simp [hp]⟩

namespace WorldGraph

/-- The graph without worlds. -/
def empty : WorldGraph := ⟨[], [], .nil, .nil, by simp⟩

/-- Adds a world. -/
def addWorld (g : WorldGraph) (world : String) : WorldGraph where
  worlds := appendNew world g.worlds
  edges := g.edges
  worlds_nodup := nodup_appendNew g.worlds_nodup
  edges_nodup := g.edges_nodup
  ends_mem e he :=
    ⟨mem_appendNew.2 (.inl (g.ends_mem e he).1), mem_appendNew.2 (.inl (g.ends_mem e he).2)⟩

/-- Adds an edge, and its ends where they are not there yet. -/
def addEdge (g : WorldGraph) (source target : String) : WorldGraph where
  worlds := appendNew target (appendNew source g.worlds)
  edges := appendNew (source, target) g.edges
  worlds_nodup := nodup_appendNew (nodup_appendNew g.worlds_nodup)
  edges_nodup := nodup_appendNew g.edges_nodup
  ends_mem e he := by
    simp only [mem_appendNew] at he ⊢
    rcases he with he | rfl
    · exact ⟨.inl (.inl (g.ends_mem e he).1), .inl (.inl (g.ends_mem e he).2)⟩
    · exact ⟨.inl (.inr rfl), .inr rfl⟩

/-- The worlds that an edge from a world leads to, in the order of the edges. -/
def successors (g : WorldGraph) (world : String) : List String :=
  (g.edges.filter (·.1 = world)).map Prod.snd

/-- The worlds from which an edge leads to a world, in the order of the edges. -/
def directPredecessors (g : WorldGraph) (world : String) : List String :=
  (g.edges.filter (·.2 = world)).map Prod.fst

@[simp] theorem mem_successors {g : WorldGraph} {u v : String} :
    v ∈ g.successors u ↔ (u, v) ∈ g.edges := by
  simp [successors]

@[simp] theorem mem_directPredecessors {g : WorldGraph} {u v : String} :
    u ∈ g.directPredecessors v ↔ (u, v) ∈ g.edges := by
  simp [directPredecessors]

/-- A world has at most as many successors as there are edges. -/
theorem length_successors_le (g : WorldGraph) (world : String) :
    (g.successors world).length ≤ g.edges.length := by
  rw [successors, List.length_map]
  exact List.length_filter_le _ _

end WorldGraph
end Curriculum
