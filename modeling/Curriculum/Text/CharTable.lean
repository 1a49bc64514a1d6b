/-!
# Tables of characters

Properties of characters that the Unicode standard gives by enumeration are
kept as tables over code points: a class as a list of inclusive ranges, a case
map as a list of runs that are shifted by the same distance, with a second list
for the characters whose image is not a single character. Both lists ascend, so
a look-up stops at the first entry beyond the code point, and the first entries
settle ASCII.
-/

namespace Curriculum.Text

/-- A class of code points: inclusive ranges in ascending order. -/
abbrev Ranges := List (Nat × Nat)

/-- Whether a code point lies in one of the ranges, which ascend. -/
def Ranges.contains : Ranges → Nat → Bool
  | [], _ => false
  | (first, last) :: rest, n =>
    if n < first then false else if n ≤ last then true else Ranges.contains rest n

/-- A code point that is found lies in one of the ranges. -/
theorem Ranges.exists_of_contains {ranges : Ranges} {n : Nat}
    (h : Ranges.contains ranges n = true) : ∃ r ∈ ranges, r.1 ≤ n ∧ n ≤ r.2 := by
  induction ranges with
  | nil => exact absurd h (by simp [Ranges.contains])
  | cons r rest ih =>
    simp only [Ranges.contains] at h
    split at h
    · exact absurd h (by simp)
    · split at h
      · exact ⟨r, by simp, by omega, by assumption⟩
      · obtain ⟨r', hr', hn⟩ := ih h
        exact ⟨r', List.mem_cons_of_mem _ hr', hn⟩

/-- A map of characters to texts that moves few of them. -/
structure CaseMap where
  /-- Runs `(first, last, step, shift)`: every `step`-th code point from `first` to `last` moves
  by `shift`. The runs ascend and do not overlap. -/
  runs : List (Nat × Nat × Nat × Int)
  /-- The code points whose image has not exactly one character, ascending. -/
  expansions : List (Nat × List Nat)

namespace CaseMap

/-- The code point that the runs move `n` to. -/
def shifted : List (Nat × Nat × Nat × Int) → Nat → Nat
  | [], n => n
  | (first, last, step, shift) :: rest, n =>
    if n < first then n
    else if n ≤ last then
      if (n - first) % step = 0 then (n + shift).toNat else n
    else shifted rest n

/-- The image of one character. -/
def image (m : CaseMap) (c : Char) : List Char :=
  match m.expansions.lookup c.toNat with
  | some codes => codes.map Char.ofNat
  | none => [Char.ofNat (shifted m.runs c.toNat)]

/-- The image of a text, character by character. -/
def apply (m : CaseMap) (s : String) : String :=
  String.ofList (s.toList.flatMap m.image)

end CaseMap
end Curriculum.Text
