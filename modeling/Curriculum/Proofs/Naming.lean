import Curriculum.Naming
import Curriculum.Proofs.Text.Digits

/-!
# Names by position

A name by position is read from the right. Neither a number nor an identifier has
a point in it, so the last point of the name stands before the level, and the last
one before that between the game and its world. The game may be called what it
likes: points in its name, or words that look like a level, come too early to be
mistaken for those two.

Main fact: `defaultTheoremName_inj`, names by position are the same only at the
same place of the same game.
-/

namespace Curriculum

/-- The last point of a text is the one that no other comes after. -/
theorem beforeLastPoint_append (before : List Char) {rest : List Char} (h : '.' ∉ rest) :
    beforeLastPoint (before ++ '.' :: rest) = before := by
  have hrest : ∀ c ∈ rest.reverse, (c != '.') = true := by
    intro c hc
    rw [bne_iff_ne]
    intro hpoint
    exact h (hpoint ▸ List.mem_reverse.1 hc)
  rw [beforeLastPoint, List.reverse_append, List.reverse_cons, List.append_assoc,
    List.dropWhile_append_of_pos hrest]
  simp

/-- A text can be taken apart at its last point in one way only. -/
theorem append_point_inj {before before' rest rest' : List Char} (h : '.' ∉ rest)
    (h' : '.' ∉ rest') :
    before ++ '.' :: rest = before' ++ '.' :: rest' ↔ before = before' ∧ rest = rest' := by
  constructor
  · intro heq
    have hbefore : before = before' := by
      rw [← beforeLastPoint_append before h, heq, beforeLastPoint_append before' h']
    subst hbefore
    exact ⟨rfl, (List.cons.inj (List.append_cancel_left heq)).2⟩
  · intro heq
    rw [heq.1, heq.2]

theorem point_notMem_identifier (id : Identifier) : '.' ∉ id.val.toList := by
  obtain ⟨s, hs⟩ := id
  have hpart : isIdentifierPart '.' = false := by decide
  have hstart : isIdentifierStart '.' = false := by decide
  unfold isIdentifier at hs
  intro hpoint
  cases hchars : s.toList with
  | nil =>
    rw [hchars] at hpoint
    exact List.not_mem_nil hpoint
  | cons c rest =>
    rw [hchars] at hs hpoint
    obtain ⟨hc, hrest⟩ := (Bool.and_eq_true _ _).mp hs
    rcases List.mem_cons.1 hpoint with hfirst | hlater
    · rw [← hfirst, hstart] at hc
      exact absurd hc (by simp)
    · have hall := List.all_eq_true.1 hrest '.' hlater
      rw [hpart] at hall
      exact absurd hall (by simp)

theorem point_notMem_toString (index : Int) : '.' ∉ (toString index).toList := by
  have hdigits : ∀ n : Nat, '.' ∉ n.repr.toList := fun n hpoint =>
    absurd (isDigit_of_mem_repr hpoint) (by decide)
  rw [Int.toString_eq_repr, Int.repr_eq_if]
  split
  · exact hdigits _
  · intro hpoint
    rw [String.toList_append] at hpoint
    rcases List.mem_append.1 hpoint with hsign | hnumber
    · exact absurd hsign (by decide)
    · exact hdigits _ hnumber

/-- A name by position from the left: the game, a point, the world, a point, the level. -/
theorem toList_defaultTheoremName (game world : String) (index : Int) :
    (defaultTheoremName game world index).toList
      = (game.toList ++ '.' :: world.toList)
        ++ '.' :: ("level".toList ++ (toString index).toList) := by
  simp [defaultTheoremName, String.toList_append]

/-- Names by position are the same only for the same game, world and level. -/
theorem defaultTheoremName_inj {game game' : String} {world world' : Identifier}
    {index index' : Int} :
    defaultTheoremName game world.val index = defaultTheoremName game' world'.val index'
      ↔ game = game' ∧ world = world' ∧ index = index' := by
  constructor
  · intro h
    have hlevel : ∀ i : Int, '.' ∉ "level".toList ++ (toString i).toList := by
      intro i hpoint
      rcases List.mem_append.1 hpoint with hword | hnumber
      · exact absurd hword (by decide)
      · exact point_notMem_toString i hnumber
    -- Take both names apart at their last points, and what is before these at theirs.
    rw [← String.toList_inj, toList_defaultTheoremName, toList_defaultTheoremName,
      append_point_inj (hlevel index) (hlevel index'),
      append_point_inj (point_notMem_identifier world) (point_notMem_identifier world')] at h
    obtain ⟨⟨hgame, hworld⟩, hindex⟩ := h
    have hnumber : toString index = toString index' :=
      String.toList_inj.1 (List.append_cancel_left hindex)
    exact ⟨String.toList_inj.1 hgame, Subtype.ext (String.toList_inj.1 hworld),
      toString_inj hnumber⟩
  · intro h
    obtain ⟨rfl, rfl, rfl⟩ := h
    rfl

end Curriculum
