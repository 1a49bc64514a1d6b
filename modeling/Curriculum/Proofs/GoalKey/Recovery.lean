import Mathlib.Data.List.Basic
import Curriculum.Proofs.GoalKey.Parts
import Curriculum.Proofs.GoalKey.Tokens

/-!
# Recovering a goal from its key

Two proof states with the same hypotheses have the same key only if their goals
are the same, up to blanks at the ends. The marks can be turned back into names
(`nameOf`), token by token like the names were turned into marks, and this
recovers the goal provided that it did not contain one of the marks before
(`mapTokens_nameOf`). Trimming is no obstacle, because neither of the two
rewritings touches a blank.

Main statement: `ofContext_eq_iff`.
-/

namespace Curriculum.GoalKey

open Text (isBlank trim)

variable {names : List (List Char)}

/-- What a token was before names were replaced: the name that has it as its mark. -/
def nameOf (names : List (List Char)) (token : List Char) : List Char :=
  (names.find? fun name => markOf names name = token).getD token

/-- Different names have different marks. -/
theorem eq_of_markOf_eq {name other : List Char} (hname : name ∈ names) (hother : other ∈ names)
    (h : markOf names name = markOf names other) : name = other := by
  rw [markOf_of_mem hname, markOf_of_mem hother, mark_inj] at h
  exact (List.idxOf_inj hname).1 (Nat.add_right_cancel h)

/-- **A token is recovered** if it is not one of the marks itself. -/
theorem nameOf_markOf {token : List Char}
    (hfree : ∀ i, 1 ≤ i → i ≤ names.length → mark i ≠ token) :
    nameOf names (markOf names token) = token := by
  unfold nameOf
  cases hfind : names.find? fun name => markOf names name = markOf names token with
  | none =>
    have hnone := List.find?_eq_none.1 hfind
    have hmem : token ∉ names := fun hmem => hnone token hmem (by simp)
    exact markOf_of_notMem hmem
  | some name =>
    have hname : name ∈ names := List.mem_of_find?_eq_some hfind
    have hmark : markOf names name = markOf names token := by simpa using List.find?_some hfind
    by_cases hmem : token ∈ names
    · exact eq_of_markOf_eq hname hmem hmark
    · -- The token would be the mark of the name that was found.
      rw [markOf_of_mem hname, markOf_of_notMem hmem] at hmark
      have hlt := List.idxOf_lt_length_of_mem hname
      exact absurd hmark (hfree _ (by omega) (by omega))

/-- A text without marks is recovered. -/
theorem mapTokens_nameOf {cs : List Char}
    (hfree : ∀ i, 1 ≤ i → i ≤ names.length → mark i ∉ tokens cs) :
    mapTokens (nameOf names) false (mapTokens (markOf names) false cs) = cs := by
  rw [mapTokens_mapTokens (keepsTokens_markOf names)]
  refine mapTokens_eq_self fun token htoken => nameOf_markOf fun i hone hi hmark => ?_
  exact hfree i hone hi (hmark ▸ htoken)

/-- Texts without marks are told apart, except for blanks at their ends. -/
theorem abstractText_eq_iff (hnames : ∀ name ∈ names, IsToken name) {text text' : String}
    (hfree : ∀ i, 1 ≤ i → i ≤ names.length → mark i ∉ tokens text.toList)
    (hfree' : ∀ i, 1 ≤ i → i ≤ names.length → mark i ∉ tokens text'.toList) :
    abstractText names text = abstractText names text' ↔ Text.strip text = Text.strip text' := by
  have habstract : ∀ text : String, abstractText names text
      = trim isBlank (mapTokens (markOf names) false text.toList) := by
    intro text
    unfold abstractText
    rw [replaceNames_eq_mapTokens hnames (by simp)]
    rfl
  -- A trimmed text is what its marks are turned back into, trimmed.
  have hback : ∀ cs : List Char, (∀ i, 1 ≤ i → i ≤ names.length → mark i ∉ tokens cs) →
      trim isBlank cs = trim isBlank (mapTokens (nameOf names) false
        (trim isBlank (mapTokens (markOf names) false cs))) := by
    intro cs hfree
    rw [← trim_mapTokens, mapTokens_nameOf hfree]
  unfold Text.strip
  rw [habstract, habstract, String.ofList_inj]
  constructor
  · intro h
    rw [hback _ hfree, hback _ hfree', h]
  · intro h
    rw [trim_mapTokens, h, ← trim_mapTokens]

/-- **Different goals have different keys.** Let two proof states have the same hypotheses, named by
tokens, and goals that do not contain the mark of one of them as a token. Their keys are equal if
the goals are, blanks at the ends aside, and in no other case. -/
theorem ofContext_eq_iff {c c' : HintContext} (hsame : c.hypotheses = c'.hypotheses)
    (hnames : ∀ name ∈ c.hypotheses.keys, IsToken name.toList)
    (hfree : ∀ i, 1 ≤ i → i ≤ c.hypotheses.size → mark i ∉ tokens c.goal.toList)
    (hfree' : ∀ i, 1 ≤ i → i ≤ c.hypotheses.size → mark i ∉ tokens c'.goal.toList) :
    ofContext c = ofContext c' ↔ Text.strip c.goal = Text.strip c'.goal := by
  have hlength : c.names.length = c.hypotheses.size := by
    simp [HintContext.names, OrderedMap.keys, OrderedMap.size]
  have hnames' : c'.names = c.names := by rw [HintContext.names, HintContext.names, hsame]
  have htokens : ∀ name ∈ c.names, IsToken name := List.forall_mem_map.2 hnames
  rw [← hlength] at hfree hfree'
  rw [ofContext_eq_assemble, ofContext_eq_assemble, HintContext.texts, HintContext.texts, hnames',
    ← hsame, List.map_append, List.map_append]
  exact assemble_slot_inj.trans (abstractText_eq_iff htokens hfree hfree')

/-- A proof state with two hypotheses, one of them named like the beginning of the other. -/
def aboutTwo (goal : String) : HintContext := ⟨.empty, .ofList [("h", "ℕ"), ("h1", "ℕ")], goal⟩

/-- A name after a point is not replaced, but it counts. Blanks at the ends do not count. -/
theorem ofContext_aboutTwo :
    ofContext (aboutTwo "x.h = h1") = "_x1 : ℕ, _x2 : ℕ, ⊢ x.h = _x2"
      ∧ ofContext (aboutTwo "x.h = h1") ≠ ofContext (aboutTwo "x.h1 = h1")
      ∧ ofContext (aboutTwo "x.h = h1") = ofContext (aboutTwo "\n x.h = h1 ") := by
  have hfree : ∀ i, 1 ≤ i → i ≤ 2 → mark i ∉ tokens "x.h = h1".toList := by decide +kernel
  have hiff : ∀ goal, (∀ i, 1 ≤ i → i ≤ 2 → mark i ∉ tokens goal.toList) →
      (ofContext (aboutTwo "x.h = h1") = ofContext (aboutTwo goal)
        ↔ Text.strip "x.h = h1" = Text.strip goal) := fun goal hgoal =>
    ofContext_eq_iff (c := aboutTwo "x.h = h1") rfl (by decide +kernel) hfree hgoal
  refine ⟨by decide +kernel, ?_, ?_⟩
  · exact mt (hiff "x.h1 = h1" (by decide +kernel)).1 (by decide +kernel)
  · exact (hiff "\n x.h = h1 " (by decide +kernel)).2 (by decide +kernel)

end Curriculum.GoalKey
