import Curriculum.Value.Display

/-!
# Flags

A truth value that is kept as a number: zero or one, or whatever equals one of
them.
-/

namespace Curriculum

/-- A value that is no flag. -/
structure FlagError where
  value : Value

/-- The wording of the error. -/
def FlagError.message (e : FlagError) : String :=
  "Hint flag must be 0 or 1, got " ++ e.value.display

/-- The truth value of a flag. -/
def decodeFlag (v : Value) : Except FlagError Bool :=
  match v.wholeNumber? with
  | some 0 => .ok false
  | some 1 => .ok true
  | _ => .error ⟨v⟩

end Curriculum
