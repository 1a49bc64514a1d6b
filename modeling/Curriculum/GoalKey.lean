import Curriculum.Exercise
import Curriculum.Text.Word
import Curriculum.Text.Blank

/-!
# Goal keys

The key of a proof state does not depend on how the hypotheses are named: every
occurrence of a hypothesis name in a type or in the goal is replaced by the
position of the hypothesis. A name occurs where it stands by itself. Before it
there must be no word character, apostrophe or point, so that `h` is not found
in `x.h`; after it no word character or apostrophe, so that `h` is not found in
`h'`. Where several names fit, the first hypothesis wins.

The empty name is found at every place where a name could stand. It takes no
character away, and it is found at most once at each place.
-/

namespace Curriculum.GoalKey

/-- Characters that join what follows to themselves. -/
def joinsAfter (c : Char) : Bool := Text.isWord c || c == '.' || c == '\''

/-- Characters that join what precedes to themselves. -/
def joinsBefore (c : Char) : Bool := Text.isWord c || c == '\''

/-- What a hypothesis is called in a key, counted from one. -/
def mark (position : Nat) : List Char := '_' :: 'x' :: Nat.toDigits 10 position

/-- What follows a name at the start of a text, if the text starts with it. -/
def after? : (name cs : List Char) → Option (List Char)
  | [], cs => some cs
  | _ :: _, [] => none
  | c :: name, d :: cs => if c = d then after? name cs else none

theorem after?_eq_some_iff {name cs rest : List Char} :
    after? name cs = some rest ↔ cs = name ++ rest := by
  induction name generalizing cs with
  | nil => simp [after?]
  | cons c name ih =>
    cases cs with
    | nil => simp [after?]
    | cons d cs =>
      simp only [after?, List.cons_append, List.cons.injEq]
      split
      · next h => rw [ih]; simp [h]
      · next h => simp [Ne.symm h]

/-- A name that was found in a text: its position among the names, its characters, and what
follows it. -/
structure Occurrence where
  position : Nat
  name : List Char
  rest : List Char

/-- The first of the names that stands at the start of `cs` and is not joined to what follows. Its
position is counted on from `position`. With `mustAdvance` the empty name does not count. -/
def nameAt (mustAdvance : Bool) (position : Nat) :
    List (List Char) → List Char → Option Occurrence
  | [], _ => none
  | name :: names, cs =>
    match after? name cs with
    | some rest =>
      if !(mustAdvance && name.isEmpty) && !rest.head?.any joinsBefore then
        some ⟨position, name, rest⟩
      else nameAt mustAdvance (position + 1) names cs
    | none => nameAt mustAdvance (position + 1) names cs

/-- A name that is found stands at the start of the text. -/
theorem append_of_nameAt {mustAdvance : Bool} {position : Nat} {names : List (List Char)}
    {cs : List Char} {o : Occurrence} (h : nameAt mustAdvance position names cs = some o) :
    cs = o.name ++ o.rest := by
  induction names generalizing position with
  | nil => exact absurd h (by simp [nameAt])
  | cons name names ih =>
    simp only [nameAt] at h
    split at h
    · next rest hrest =>
      split at h
      · cases h
        exact after?_eq_some_iff.1 hrest
      · exact ih h
    · exact ih h

/-- Where the empty name does not count, it is not found. -/
theorem name_ne_nil_of_nameAt {position : Nat} {names : List (List Char)} {cs : List Char}
    {o : Occurrence} (h : nameAt true position names cs = some o) : o.name ≠ [] := by
  induction names generalizing position with
  | nil => exact absurd h (by simp [nameAt])
  | cons name names ih =>
    simp only [nameAt] at h
    split at h
    · split at h
      · next hname =>
        cases h
        simp_all
      · exact ih h
    · exact ih h

/-- The name that stands at the start of `cs`, where `before` is the character before it. -/
def occurrenceAt (names : List (List Char)) (before : Option Char) (mustAdvance : Bool)
    (cs : List Char) : Option Occurrence :=
  if before.any joinsAfter then none else nameAt mustAdvance 1 names cs

theorem nameAt_of_occurrenceAt {names : List (List Char)} {before : Option Char}
    {mustAdvance : Bool} {cs : List Char} {o : Occurrence}
    (h : occurrenceAt names before mustAdvance cs = some o) :
    nameAt mustAdvance 1 names cs = some o := by
  rw [occurrenceAt] at h
  split at h
  · exact absurd h (by simp)
  · exact h

/-- Replaces the names in a text by the marks of their positions. `before` is the character before
`cs`; with `mustAdvance` the empty name has been found here already. -/
def replaceNames (names : List (List Char)) (before : Option Char) (mustAdvance : Bool)
    (cs : List Char) : List Char :=
  match _h : occurrenceAt names before mustAdvance cs with
  | some o =>
    if _hname : o.name = [] then mark o.position ++ replaceNames names before true cs
    else mark o.position ++ replaceNames names o.name.getLast? false o.rest
  | none =>
    match cs with
    | [] => []
    | c :: rest => c :: replaceNames names (some c) false rest
termination_by 2 * cs.length + (!mustAdvance).toNat
decreasing_by
  · -- The empty name is found for the first time here: it may not be found again.
    cases mustAdvance with
    | false => simp
    | true => exact absurd _hname (name_ne_nil_of_nameAt (nameAt_of_occurrenceAt _h))
  · -- A name with characters takes them away.
    have hcs := congrArg List.length (append_of_nameAt (nameAt_of_occurrenceAt _h))
    have hpos := List.length_pos_iff.2 _hname
    rw [List.length_append] at hcs
    simp only [Bool.not_false, Bool.toNat_true]
    omega
  · simp only [List.length_cons, Bool.not_false, Bool.toNat_true]
    omega

/-- A text of a proof state as it stands in the key. -/
def abstractText (names : List (List Char)) (s : String) : List Char :=
  Text.trim Text.isBlank (replaceNames names none false s.toList)

/-- The parts of the key that belong to the hypotheses from a position on. -/
def hypotheses (names : List (List Char)) : (position : Nat) → List (String × String) →
    List (List Char)
  | _, [] => []
  | position, (_, type) :: rest =>
    (mark position ++ " : ".toList ++ abstractText names type)
      :: hypotheses names (position + 1) rest

/-- The key of a proof state. -/
def ofContext (c : HintContext) : String :=
  let names := c.hypotheses.keys.map String.toList
  let parts := hypotheses names 1 c.hypotheses.entries
    ++ ["⊢ ".toList ++ abstractText names c.goal]
  String.ofList (", ".toList.intercalate parts)

end Curriculum.GoalKey
