import Curriculum.HintText
import Curriculum.Proofs.GoalKey.Occurrences

/-!
# Templates and what they show

A template is written piece by piece: a text that is to be shown as it is, with
its braces doubled, or a placeholder, its name between single braces. Where the
pieces meet there can be long runs of braces, and a run does not say by itself
where one piece ends and the next begins. Reading from left to right finds the
boundaries nevertheless. A doubled brace is taken away as a whole
(`fill_doubled_append`), so in a run of opening braces the one left over is the
last, which opens the placeholder; and a placeholder ends at its first closing
brace, since no name contains one (`fill_placeholder_append`).

Main statement: `render_written`.
-/

namespace Curriculum.HintText

/-- A name that a placeholder can have. -/
abbrev PlaceholderName := { name : String // GoalKey.isPlaceholderName name.toList = true }

/-- A text whose braces are written twice. -/
def doubled (cs : List Char) : List Char :=
  cs.flatMap fun c => if c = '{' ∨ c = '}' then [c, c] else [c]

/-- A piece of a template. -/
inductive Segment where
  /-- A text to be shown as it is. -/
  | literal (text : String)
  /-- A name to be shown as what it is bound to. -/
  | placeholder (name : PlaceholderName)
deriving DecidableEq

namespace Segment

/-- A piece as it is written in a template. -/
def written : Segment → String
  | literal text => String.ofList (doubled text.toList)
  | placeholder name => "\x7b" ++ name.val ++ "\x7d"

/-- A piece as it is shown in a proof state. -/
def shown (context : HintContext) : Segment → String
  | literal text => text
  | placeholder name => (context.bindings.get? name.val).getD ("\x7b" ++ name.val ++ "\x7d")

end Segment

variable {binding : String → Option String}

/-! ## Texts -/

/-- A character that is no brace stays. -/
theorem fill_cons {c : Char} (hopen : c ≠ '{') (hclose : c ≠ '}') (rest : List Char) :
    fill binding (c :: rest) = c :: fill binding rest := by
  rw [fill]
  · intro _ h
    exact absurd h hopen
  · intro _ h
    exact absurd h hclose
  · intro h
    exact absurd h hopen

/-- A text whose braces are doubled is shown as it is, whatever follows. -/
theorem fill_doubled_append (cs rest : List Char) :
    fill binding (doubled cs ++ rest) = cs ++ fill binding rest := by
  induction cs with
  | nil => rfl
  | cons c cs ih =>
    have hcons : doubled (c :: cs) ++ rest
        = (if c = '{' ∨ c = '}' then [c, c] else [c]) ++ (doubled cs ++ rest) := by
      rw [doubled, List.flatMap_cons, List.append_assoc, doubled]
    rw [hcons, List.cons_append, ← ih]
    by_cases hopen : c = '{'
    · subst hopen
      rw [if_pos (.inl rfl)]
      exact fill.eq_2 binding _
    · by_cases hclose : c = '}'
      · subst hclose
        rw [if_pos (.inr rfl)]
        exact fill.eq_3 binding _
      · rw [if_neg (not_or.2 ⟨hopen, hclose⟩)]
        exact fill_cons hopen hclose _

/-! ## Placeholders -/

/-- Braces are no part of names. -/
theorem isNamePart_brace : isNamePart '{' = false ∧ isNamePart '}' = false := by decide

/-- A name is recognised up to the brace that closes it. -/
theorem placeholder?_name {name : List Char} (h : GoalKey.isPlaceholderName name = true)
    (rest : List Char) : placeholder? (name ++ '}' :: rest) = some (name, rest) := by
  cases name with
  | nil => exact absurd h (by simp [GoalKey.isPlaceholderName])
  | cons c cs =>
    rw [GoalKey.isPlaceholderName, Bool.and_eq_true, List.all_eq_true] at h
    obtain ⟨hstart, hparts⟩ := h
    have hclose : ¬ isNamePart '}' = true := by
      rw [isNamePart_brace.2]
      exact Bool.false_ne_true
    have htake : (cs ++ '}' :: rest).takeWhile isNamePart = cs := by
      rw [List.takeWhile_append_of_pos hparts, List.takeWhile_cons_of_neg hclose, List.append_nil]
    have hdrop : (cs ++ '}' :: rest).dropWhile isNamePart = '}' :: rest := by
      rw [List.dropWhile_append_of_pos hparts, List.dropWhile_cons_of_neg hclose]
    rw [List.cons_append, placeholder?, if_pos hstart, hdrop, htake]
    rfl

/-- A name does not begin with a brace. -/
theorem name_ne_brace_cons {name rest after : List Char}
    (h : GoalKey.isPlaceholderName name = true) : name ++ rest ≠ '{' :: after := by
  intro heq
  cases name with
  | nil => exact absurd h (by simp [GoalKey.isPlaceholderName])
  | cons c cs =>
    rw [List.cons_append, List.cons.injEq] at heq
    rw [GoalKey.isPlaceholderName, Bool.and_eq_true, heq.1] at h
    have hpart := GoalKey.isNamePart_of_isIdentifierStart h.1
    rw [isNamePart_brace.1] at hpart
    exact absurd hpart Bool.false_ne_true

/-- A placeholder is shown as what its name is bound to, or as it is written, whatever follows. -/
theorem fill_placeholder_append {name : List Char} (h : GoalKey.isPlaceholderName name = true)
    (rest : List Char) :
    fill binding ('{' :: (name ++ '}' :: rest))
      = (binding (String.ofList name)).elim ('{' :: (name ++ ['}'])) String.toList
        ++ fill binding rest := by
  rw [fill.eq_4 binding _ fun after heq => absurd heq (name_ne_brace_cons h)]
  split
  · next name' after heq =>
    rw [placeholder?_name h, Option.some.injEq, Prod.mk.injEq] at heq
    obtain ⟨rfl, rfl⟩ := heq
    cases binding (String.ofList name) with
    | none => simp
    | some text => rfl
  · next heq =>
    rw [placeholder?_name h] at heq
    exact absurd heq (by simp)

/-! ## Templates -/

/-- One piece is shown, and filling in goes on behind it. -/
theorem fill_written_append (context : HintContext) (segment : Segment) (rest : List Char) :
    fill context.bindings.get? (segment.written.toList ++ rest)
      = (segment.shown context).toList ++ fill context.bindings.get? rest := by
  cases segment with
  | literal text =>
    show fill _ ((String.ofList (doubled text.toList)).toList ++ rest) = text.toList ++ _
    rw [String.toList_ofList]
    exact fill_doubled_append text.toList rest
  | placeholder name =>
    have hwritten : (Segment.placeholder name).written.toList ++ rest
        = '{' :: (name.val.toList ++ '}' :: rest) := by
      simp [Segment.written]
    rw [hwritten, fill_placeholder_append name.property, String.ofList_toList, Segment.shown]
    cases context.bindings.get? name.val with
    | none => simp
    | some text => rfl

/-- **Templates.** A template that is written piece by piece is shown piece by piece: the texts as
they are, and the placeholders as what their names are bound to, which is not looked at again, or as
they are written. -/
theorem render_written (segments : List Segment) (context : HintContext) :
    render (String.join (segments.map Segment.written)) context
      = String.join (segments.map (Segment.shown context)) := by
  have hfill : ∀ segments : List Segment,
      fill context.bindings.get? (segments.flatMap fun s => s.written.toList)
        = segments.flatMap fun s => (s.shown context).toList := by
    intro segments
    induction segments with
    | nil => exact fill.eq_1 _
    | cons segment rest ih =>
      rw [List.flatMap_cons, List.flatMap_cons, fill_written_append, ih]
  rw [render, String.toList_join, List.flatMap_map, hfill, ← String.toList_inj,
    String.toList_ofList, String.toList_join, List.flatMap_map]

/-- A brace of the text and a placeholder, bound to what looks like a doubled brace. -/
example : render "\x7b\x7b\x7bh\x7d" ⟨OrderedMap.ofList [("h", "\x7b\x7b")], .empty, ""⟩
    = "\x7b\x7b\x7b" := by
  decide +kernel

end Curriculum.HintText
