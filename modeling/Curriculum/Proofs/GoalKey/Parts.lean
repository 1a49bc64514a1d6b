import Mathlib.Data.List.Basic
import Curriculum.GoalKey

/-!
# The parts of a key

A key is put together from the texts of the proof state, the types of the
hypotheses and the goal, after the names in them have been replaced
(`ofContext_eq_assemble`). What stands between the texts depends on their number
alone. So each text keeps its place in the key and can be read off there
(`assemble_slot`).
-/

namespace Curriculum

/-- The texts of a proof state: the types of its hypotheses in order, and the goal. -/
def HintContext.texts (c : HintContext) : List String := c.hypotheses.values ++ [c.goal]

/-- The names of the hypotheses in order. -/
def HintContext.names (c : HintContext) : List (List Char) := c.hypotheses.keys.map String.toList

namespace GoalKey

/-- What stands before the texts of a key: the marks of the hypotheses, and the turnstile. -/
def labels (hypotheses : Nat) : List (List Char) :=
  (List.range' 1 hypotheses).map (fun position => mark position ++ " : ".toList)
    ++ ["⊢ ".toList]

/-- The key with the given texts, the last of them that of the goal. -/
def assemble (texts : List (List Char)) : String :=
  String.ofList
    (", ".toList.intercalate (List.zipWith (· ++ ·) (labels (texts.length - 1)) texts))

theorem hypotheses_eq_zipWith (names : List (List Char)) (position : Nat)
    (entries : List (String × String)) :
    hypotheses names position entries
      = List.zipWith (· ++ ·)
          ((List.range' position entries.length).map fun k => mark k ++ " : ".toList)
          ((entries.map Prod.snd).map (abstractText names)) := by
  induction entries generalizing position with
  | nil => rfl
  | cons e rest ih =>
    rw [hypotheses, ih, List.length_cons, List.range'_succ]
    rfl

/-- The key of a proof state is put together from its texts. -/
theorem ofContext_eq_assemble (c : HintContext) :
    ofContext c = assemble (c.texts.map (abstractText c.names)) := by
  have hlength : (c.texts.map (abstractText c.names)).length - 1 = c.hypotheses.entries.length := by
    simp [HintContext.texts, OrderedMap.values]
  unfold assemble labels
  rw [hlength, HintContext.texts, List.map_append,
    List.zipWith_append (by simp [OrderedMap.values]), OrderedMap.values, ← hypotheses_eq_zipWith]
  rfl

/-- Of a row of texts with something between them, what is around one of them does not depend on
it. -/
theorem intercalate_slot (sep : List Char) (left right : List (List Char)) :
    ∃ before after, ∀ text, sep.intercalate (left ++ text :: right) = before ++ text ++ after := by
  induction left with
  | nil =>
    cases right with
    | nil => exact ⟨[], [], fun text => by simp [List.intercalate]⟩
    | cons next right =>
      refine ⟨[], sep ++ sep.intercalate (next :: right), fun text => ?_⟩
      rw [List.nil_append, List.intercalate_cons_cons, List.nil_append, List.append_assoc]
  | cons first left ih =>
    obtain ⟨before, after, h⟩ := ih
    refine ⟨first ++ sep ++ before, after, fun text => ?_⟩
    have hne : ∃ next rest, left ++ text :: right = next :: rest := by
      cases left with
      | nil => exact ⟨text, right, rfl⟩
      | cons next left => exact ⟨next, left ++ text :: right, rfl⟩
    obtain ⟨next, rest, hrest⟩ := hne
    rw [List.cons_append, hrest, List.intercalate_cons_cons, ← hrest, h]
    simp only [List.append_assoc]

/-- **Each text has its place** in a key: what is around it does not depend on it. -/
theorem assemble_slot (left right : List (List Char)) :
    ∃ before after, ∀ text,
      assemble (left ++ text :: right) = String.ofList (before ++ text ++ after) := by
  let ls := labels (left.length + right.length)
  have hlt : left.length < ls.length := by
    have hlength : ls.length = left.length + right.length + 1 := by simp [ls, labels]
    omega
  have hls : ls = ls.take left.length ++ ls[left.length] :: ls.drop (left.length + 1) := by
    rw [← List.drop_eq_getElem_cons hlt, List.take_append_drop]
  have hzip : ∀ text, List.zipWith (· ++ ·) ls (left ++ text :: right)
      = List.zipWith (· ++ ·) (ls.take left.length) left
        ++ (ls[left.length] ++ text)
          :: List.zipWith (· ++ ·) (ls.drop (left.length + 1)) right := by
    intro text
    conv_lhs => rw [hls]
    rw [List.zipWith_append (List.length_take_of_le (Nat.le_of_lt hlt)), List.zipWith_cons_cons]
  obtain ⟨before, after, h⟩ := intercalate_slot ", ".toList
    (List.zipWith (· ++ ·) (ls.take left.length) left)
    (List.zipWith (· ++ ·) (ls.drop (left.length + 1)) right)
  refine ⟨before ++ ls[left.length], after, fun text => ?_⟩
  have hlength : (left ++ text :: right).length - 1 = left.length + right.length := by
    simp only [List.length_append, List.length_cons]
    omega
  unfold assemble
  rw [hlength, hzip, h, ← List.append_assoc before]

/-- Keys that differ in one text only are equal if these texts are. -/
theorem assemble_slot_inj {left right : List (List Char)} {text text' : List Char} :
    assemble (left ++ text :: right) = assemble (left ++ text' :: right) ↔ text = text' := by
  obtain ⟨before, after, h⟩ := assemble_slot left right
  rw [h, h, String.ofList_inj, List.append_left_inj, List.append_right_inj]

end GoalKey
end Curriculum
