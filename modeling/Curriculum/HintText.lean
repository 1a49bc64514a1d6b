import Curriculum.Exercise

/-!
# Hint texts

The text of a hint is a template. A name between braces is a placeholder and
stands for what the name is bound to in the proof state at hand; a placeholder
whose name is not bound stays as it is written. A doubled brace is a single
brace of the text. What is filled in is not looked at again.
-/

namespace Curriculum.HintText

/-- The characters of a placeholder's name after its first one, which is a letter of ASCII or a low
line. -/
def isNamePart (c : Char) : Bool := isIdentifierPart c || c == '\'' || c == '.'

/-- The name of a placeholder whose opening brace stands before `cs`, and what follows its closing
brace. -/
def placeholder? : List Char → Option (List Char × List Char)
  | [] => none
  | c :: rest =>
    if isIdentifierStart c then
      match rest.dropWhile isNamePart with
      | '}' :: after => some (c :: rest.takeWhile isNamePart, after)
      | _ => none
    else none

/-- What follows a placeholder is shorter than the text from its name on. -/
theorem length_of_placeholder? {cs name after : List Char}
    (h : placeholder? cs = some (name, after)) : after.length < cs.length := by
  cases cs with
  | nil => simp [placeholder?] at h
  | cons c rest =>
    simp only [placeholder?] at h
    split at h
    · split at h
      · next heq =>
        obtain ⟨-, rfl⟩ := Prod.mk.inj (Option.some.inj h)
        have hle := (List.dropWhile_sublist (p := isNamePart) (l := rest)).length_le
        rw [heq, List.length_cons] at hle
        simp only [List.length_cons]
        omega
      · exact absurd h (by simp)
    · exact absurd h (by simp)

/-- Fills in a template. -/
def fill (binding : String → Option String) (cs : List Char) : List Char :=
  match cs with
  | [] => []
  | '{' :: '{' :: rest => '{' :: fill binding rest
  | '}' :: '}' :: rest => '}' :: fill binding rest
  | '{' :: rest =>
    match h : placeholder? rest with
    | some (name, after) =>
      have := length_of_placeholder? h
      match binding (String.ofList name) with
      | some s => s.toList ++ fill binding after
      | none => '{' :: name ++ '}' :: fill binding after
    | none => '{' :: fill binding rest
  | c :: rest => c :: fill binding rest
termination_by cs.length
decreasing_by all_goals simp_all <;> omega

/-- The text of a template in a proof state. -/
def render (template : String) (context : HintContext) : String :=
  String.ofList (fill context.bindings.get? template.toList)

end Curriculum.HintText
