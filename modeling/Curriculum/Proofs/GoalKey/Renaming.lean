import Mathlib.Data.List.Nodup
import Curriculum.Proofs.GoalKey.Parts
import Curriculum.Proofs.GoalKey.Tokens
import Curriculum.Proofs.Mapping

/-!
# Renaming hypotheses

A proof state is renamed by giving every hypothesis a new name and by writing the
new names for the old ones in all texts, token by token. The names may be
exchanged among each other, and one may be the beginning of another. As long as
the new names are different tokens, and none of them stands in a text already
without being the name of a hypothesis, a token of the renamed state has the mark
that the old token had (`markOf_renameToken`): the position of the hypothesis.
So the key stays the same.

Main statement: `ofContext_rename`.
-/

namespace Curriculum

namespace GoalKey

variable {names : List String} {r : String → String}

/-- The tokens of a text as texts. -/
def tokensOf (text : String) : List String := (tokens text.toList).map String.ofList

/-- The new name of a token that is one of the names. -/
def renameToken (names : List String) (r : String → String) (token : List Char) : List Char :=
  if String.ofList token ∈ names then (r (String.ofList token)).toList else token

/-- A text with new names, except where a point precedes. -/
def renameText (names : List String) (r : String → String) (text : String) : String :=
  String.ofList (mapTokens (renameToken names r) false text.toList)

end GoalKey

/-- The proof state with new names for its hypotheses. -/
def HintContext.rename (r : String → String) (c : HintContext) : HintContext where
  bindings := c.bindings
  hypotheses := .ofList (c.hypotheses.entries.map fun e =>
    (r e.1, GoalKey.renameText c.hypotheses.keys r e.2))
  goal := GoalKey.renameText c.hypotheses.keys r c.goal

namespace GoalKey

variable {names : List String} {r : String → String}

/-- Different names stay different. -/
theorem nodup_map_toList (hnodup : names.Nodup)
    (hinj : ∀ name ∈ names, ∀ other ∈ names, r name = r other → name = other) :
    (names.map fun name => (r name).toList).Nodup :=
  hnodup.map_on fun name hname other hother h =>
    hinj name hname other hother (String.toList_inj.1 h)

theorem keepsTokens_renameToken (hnew : ∀ name ∈ names, IsToken (r name).toList) :
    KeepsTokens (renameToken names r) := by
  intro token htoken
  unfold renameToken
  split
  · next h => exact hnew _ h
  · exact htoken

/-- **A renamed token** has the mark that it had. -/
theorem markOf_renameToken (hnodup : names.Nodup)
    (hinj : ∀ name ∈ names, ∀ other ∈ names, r name = r other → name = other) {token : List Char}
    (hfree : String.ofList token ∉ names → ∀ name ∈ names, String.ofList token ≠ r name) :
    markOf (names.map fun name => (r name).toList) (renameToken names r token)
      = markOf (names.map String.toList) token := by
  unfold renameToken
  split
  · next hmem =>
    -- A name: it stands at the same position among the new names.
    obtain ⟨i, hi, hname⟩ := List.getElem_of_mem hmem
    have hnew := markOf_getElem (i := i) (nodup_map_toList hnodup hinj) (by simpa using hi)
    have hold := markOf_getElem (i := i) (nodup_map_toList (r := id) hnodup fun _ _ _ _ h => h)
      (by simpa using hi)
    rw [List.getElem_map, hname] at hnew hold
    rw [hnew]
    exact (String.toList_ofList ▸ hold).symm
  · next hmem =>
    have hold : token ∉ names.map String.toList := by
      intro h
      obtain ⟨name, hname, rfl⟩ := List.mem_map.1 h
      exact hmem (by rwa [String.ofList_toList])
    have hnew : token ∉ names.map fun name => (r name).toList := by
      intro h
      obtain ⟨name, hname, rfl⟩ := List.mem_map.1 h
      exact hfree hmem name hname String.ofList_toList
    rw [markOf_of_notMem hold, markOf_of_notMem hnew]

/-- A renamed text is replaced by the same as the text. -/
theorem abstractText_renameText (hnodup : names.Nodup)
    (hnames : ∀ name ∈ names, IsToken name.toList)
    (hnew : ∀ name ∈ names, IsToken (r name).toList)
    (hinj : ∀ name ∈ names, ∀ other ∈ names, r name = r other → name = other) {text : String}
    (hfree : ∀ token ∈ tokensOf text, token ∉ names → ∀ name ∈ names, token ≠ r name) :
    abstractText (names.map fun name => (r name).toList) (renameText names r text)
      = abstractText (names.map String.toList) text := by
  unfold abstractText renameText
  rw [String.toList_ofList,
    replaceNames_eq_mapTokens (List.forall_mem_map.2 hnew) (by simp),
    replaceNames_eq_mapTokens (List.forall_mem_map.2 hnames) (by simp),
    show ((none : Option Char) == some '.') = false from rfl,
    mapTokens_mapTokens (keepsTokens_renameToken hnew)]
  refine congrArg _ (mapTokens_congr fun token htoken => markOf_renameToken hnodup hinj ?_)
  exact hfree _ (List.mem_map_of_mem htoken)

end GoalKey

namespace HintContext

variable {c : HintContext} {r : String → String}

theorem entries_rename
    (hinj : ∀ name ∈ c.hypotheses.keys, ∀ other ∈ c.hypotheses.keys,
      r name = r other → name = other) :
    (c.rename r).hypotheses.entries
      = c.hypotheses.entries.map fun e => (r e.1, GoalKey.renameText c.hypotheses.keys r e.2) := by
  refine OrderedMap.entries_ofList ?_
  have hkeys : (c.hypotheses.keys.map r).Nodup := c.hypotheses.nodup.map_on hinj
  simpa [OrderedMap.keys, Function.comp_def] using hkeys

theorem texts_rename
    (hinj : ∀ name ∈ c.hypotheses.keys, ∀ other ∈ c.hypotheses.keys,
      r name = r other → name = other) :
    (c.rename r).texts = c.texts.map (GoalKey.renameText c.hypotheses.keys r) := by
  unfold texts OrderedMap.values
  rw [entries_rename hinj, List.map_append, List.map_map, List.map_map]
  rfl

theorem names_rename
    (hinj : ∀ name ∈ c.hypotheses.keys, ∀ other ∈ c.hypotheses.keys,
      r name = r other → name = other) :
    (c.rename r).names = c.hypotheses.keys.map fun name => (r name).toList := by
  unfold names OrderedMap.keys
  rw [entries_rename hinj, List.map_map, List.map_map, List.map_map]
  rfl

end HintContext

namespace GoalKey

/-- **Keys do not depend on names.** Let the names of the hypotheses be tokens, and give each of
them a new name, different names for different ones and tokens as well. If no new name stands in a
type or in the goal as a token that is not a name, the key stays the same. -/
theorem ofContext_rename {c : HintContext} {r : String → String}
    (hnames : ∀ name ∈ c.hypotheses.keys, IsToken name.toList)
    (hnew : ∀ name ∈ c.hypotheses.keys, IsToken (r name).toList)
    (hinj : ∀ name ∈ c.hypotheses.keys, ∀ other ∈ c.hypotheses.keys,
      r name = r other → name = other)
    (hfree : ∀ text ∈ c.texts, ∀ token ∈ tokensOf text, token ∉ c.hypotheses.keys →
      ∀ name ∈ c.hypotheses.keys, token ≠ r name) :
    ofContext (c.rename r) = ofContext c := by
  rw [ofContext_eq_assemble, ofContext_eq_assemble, HintContext.texts_rename hinj,
    HintContext.names_rename hinj, List.map_map]
  refine congrArg assemble (List.map_congr_left fun text htext => ?_)
  exact abstractText_renameText c.hypotheses.nodup hnames hnew hinj (hfree text htext)

/-- Three hypotheses, the names of two of them longer than that of the first. -/
def likeNames : HintContext :=
  ⟨.empty, .ofList [("h", "ℕ"), ("h1", "h = h"), ("h'", "P h1")], "h' h1 ∧ x.h1 = h.2"⟩

/-- Exchanges the names of the first two. -/
def exchanged (name : String) : String :=
  if name = "h" then "h1" else if name = "h1" then "h" else "k'"

theorem ofContext_rename_exchanged :
    (likeNames.rename exchanged).goal = "k' h ∧ x.h1 = h1.2"
      ∧ ofContext likeNames
        = "_x1 : ℕ, _x2 : _x1 = _x1, _x3 : P _x2, ⊢ _x3 _x2 ∧ x.h1 = _x1.2"
      ∧ ofContext (likeNames.rename exchanged) = ofContext likeNames := by
  refine ⟨by decide +kernel, by decide +kernel, ofContext_rename ?_ ?_ ?_ ?_⟩ <;> decide +kernel

end GoalKey
end Curriculum
