import Mathlib.Data.List.DropRight
import Curriculum.Text.Blank

/-!
# Trimming

What trimming takes away are characters of a class at both ends of a text
(`exists_trim`). A piece in the middle of a text that has no such character at its
ends (`IsTrimmed`) keeps what happens at one end of the text from reaching the
other: trimming the whole is trimming the start of what stands before the piece
and the end of what stands after it (`trim_append_append`).
-/

namespace Curriculum.Text

variable {p : Char → Bool}

/-- No character of the class stands at either end. -/
structure IsTrimmed (p : Char → Bool) (cs : List Char) : Prop where
  head : ∀ c ∈ cs.head?, p c = false
  last : ∀ c ∈ cs.getLast?, p c = false

/-- The text without the characters of a class at its end. -/
def trimEnd (p : Char → Bool) (cs : List Char) : List Char := cs.rdropWhile p

theorem trim_eq_trimEnd (p : Char → Bool) (cs : List Char) :
    trim p cs = trimEnd p (cs.dropWhile p) := rfl

/-- A text that starts with another character keeps all of it, and all that stands after. -/
theorem dropWhile_append_of_head {before rest : List Char}
    (hhead : ∀ c ∈ rest.head?, p c = false) :
    (before ++ rest).dropWhile p = before.dropWhile p ++ rest := by
  have hrest : rest.dropWhile p = rest := by
    cases rest with
    | nil => rfl
    | cons c rest => exact List.dropWhile_cons_of_neg (by simp [hhead c rfl])
  rw [List.dropWhile_append, hrest]
  split
  · next h => rw [List.isEmpty_iff.1 h, List.nil_append]
  · rfl

/-- The same at the end of a text. -/
theorem trimEnd_append_of_last {before rest : List Char}
    (hlast : ∀ c ∈ before.getLast?, p c = false) :
    trimEnd p (before ++ rest) = before ++ trimEnd p rest := by
  have hhead : ∀ c ∈ before.reverse.head?, p c = false := by
    rw [List.head?_reverse]
    exact hlast
  unfold trimEnd List.rdropWhile
  rw [List.reverse_append, dropWhile_append_of_head hhead,
    List.reverse_append, List.reverse_reverse]

/-- What stands around a trimmed piece is trimmed by itself, at its outer end. -/
theorem trim_append_append {core : List Char} (hne : core ≠ []) (h : IsTrimmed p core)
    (before after : List Char) :
    trim p (before ++ core ++ after) = before.dropWhile p ++ core ++ trimEnd p after := by
  have hhead : ∀ c ∈ (core ++ after).head?, p c = false := by
    rw [List.head?_append_of_ne_nil _ hne]
    exact h.head
  have hlast : ∀ c ∈ (before.dropWhile p ++ core).getLast?, p c = false := by
    rw [List.getLast?_append_of_ne_nil _ hne]
    exact h.last
  rw [trim_eq_trimEnd, List.append_assoc, dropWhile_append_of_head hhead,
    ← List.append_assoc, trimEnd_append_of_last hlast]

/-- Characters of the class that stand around a text do not matter. -/
theorem trim_append_of_all {before cs after : List Char} (hbefore : ∀ c ∈ before, p c = true)
    (hafter : ∀ c ∈ after, p c = true) : trim p (before ++ cs ++ after) = trim p cs := by
  have hend : ∀ cs, trimEnd p (cs ++ after) = trimEnd p cs := by
    intro cs
    unfold trimEnd List.rdropWhile
    rw [List.reverse_append, List.dropWhile_append_of_pos (by simpa using hafter)]
  rw [trim_eq_trimEnd, List.append_assoc, List.dropWhile_append_of_pos hbefore,
    List.dropWhile_append, trim_eq_trimEnd]
  split
  · next h =>
    -- Nothing is left of the text either.
    rw [List.isEmpty_iff.1 h, List.dropWhile_eq_nil_iff.2 hafter]
  · exact hend _

/-- What is left of a text starts with another character. -/
theorem eq_false_of_head?_dropWhile {cs : List Char} :
    ∀ c ∈ (cs.dropWhile p).head?, p c = false := by
  intro c hc
  have hnot := List.head?_dropWhile_not p cs
  rw [Option.mem_def.1 hc] at hnot
  exact hnot

/-- A text is what trimming leaves of it, between characters of the class. -/
theorem exists_trim (p : Char → Bool) (cs : List Char) :
    ∃ before after, cs = before ++ trim p cs ++ after
      ∧ (∀ c ∈ before, p c = true) ∧ ∀ c ∈ after, p c = true := by
  refine ⟨cs.takeWhile p, (cs.dropWhile p).rtakeWhile p, ?_, ?_, ?_⟩
  · rw [trim_eq_trimEnd, List.append_assoc]
    unfold trimEnd
    rw [List.rdropWhile_append_rtakeWhile, List.takeWhile_append_dropWhile]
  · exact fun c hc => List.mem_takeWhile_imp hc
  · exact fun c hc => List.mem_rtakeWhile_imp hc

end Curriculum.Text
