import Mathlib.Data.List.Nodup
import Mathlib.Data.Nat.Find
import Curriculum.HintText
import Curriculum.Proofs.GoalKey.Parts
import Curriculum.Proofs.GoalKey.Tokens

/-!
# Occurrences of names with points

A placeholder of a hint can be named with points, and so can a hypothesis. An
occurrence of such a name stands free if neither a word character nor an
apostrophe or a point is next to it (`StandsFree`). What it is replaced by does
not depend on what stands around it (`replaceNames_occurrence`), but it need not be
its own mark: a point may follow a name, so the name `h` of an earlier hypothesis
fits the occurrence of `h.left` as well, and the first name that fits wins. The
occurrence has its own mark unless an earlier name with a point is the beginning
of its name (`mark_append_eq_iff`).

Main statement: `own_mark_iff`.
-/

namespace Curriculum.GoalKey

open Text (IsTrimmed isBlank trim trimEnd)

variable {names : List (List Char)}

/-- A name that a placeholder can have. -/
def isPlaceholderName (name : List Char) : Bool :=
  match name with
  | [] => false
  | c :: rest => isIdentifierStart c && rest.all HintText.isNamePart

theorem joinsAfter_of_isNamePart {c : Char} (h : HintText.isNamePart c = true) :
    joinsAfter c = true := by
  rw [HintText.isNamePart, Bool.or_eq_true, Bool.or_eq_true] at h
  unfold joinsAfter
  rcases h with (hpart | hquote) | hpoint
  · rw [Text.isWord_of_isIdentifierPart hpart, Bool.true_or, Bool.true_or]
  · rw [hquote, Bool.or_true]
  · rw [hpoint, Bool.or_true, Bool.true_or]

theorem isNamePart_of_isIdentifierStart {c : Char} (h : isIdentifierStart c = true) :
    HintText.isNamePart c = true := by
  rw [isIdentifierStart, Bool.or_eq_true] at h
  unfold HintText.isNamePart isIdentifierPart Char.isAlphanum
  rcases h with h | h
  · rw [h, Bool.true_or, Bool.true_or, Bool.true_or, Bool.true_or]
  · rw [h, Bool.or_true, Bool.true_or, Bool.true_or]

/-- A name has characters, and all of them join what follows. -/
theorem joinsAfter_of_isPlaceholderName {name : List Char} (h : isPlaceholderName name = true) :
    name ≠ [] ∧ ∀ c ∈ name, joinsAfter c = true := by
  cases name with
  | nil => simp [isPlaceholderName] at h
  | cons c rest =>
    rw [isPlaceholderName, Bool.and_eq_true, List.all_eq_true] at h
    refine ⟨by simp, List.forall_mem_cons.2 ⟨?_, fun d hd => ?_⟩⟩
    · exact joinsAfter_of_isNamePart (isNamePart_of_isIdentifierStart h.1)
    · exact joinsAfter_of_isNamePart (h.2 d hd)

/-! ## What stands free -/

/-- No character that joins is next to what stands between `before` and `after`. -/
structure StandsFree (before after : List Char) : Prop where
  left : ∀ d ∈ before.getLast?, joinsAfter d = false
  right : ∀ d ∈ after.head?, joinsAfter d = false

instance (before after : List Char) : Decidable (StandsFree before after) :=
  decidable_of_iff
    (before.getLast?.any joinsAfter = false ∧ after.head?.any joinsAfter = false) <| by
    simp only [Option.any_eq_false]
    exact ⟨fun h => ⟨h.1, h.2⟩, fun h => ⟨h.left, h.right⟩⟩

/-- A character that does not join separates. -/
theorem separates_of_not_joinsAfter (hjoin : ∀ name ∈ names, ∀ c ∈ name, joinsAfter c = true)
    {d : Char} (hd : joinsAfter d = false) : Separates names d := by
  constructor
  case notMem =>
    intro name hname hmem
    exact absurd ((hjoin name hname d hmem).symm.trans hd) (by simp)
  case free =>
    rw [joinsAfter_eq, Bool.or_eq_false_iff] at hd
    exact hd.1

/-- **What stands free** is replaced apart from the texts before and after it. -/
theorem replaceNames_occurrence (hempty : [] ∉ names)
    (hjoin : ∀ name ∈ names, ∀ c ∈ name, joinsAfter c = true) {before name after shown : List Char}
    (hfree : StandsFree before after)
    (hshown : ∀ previous : Option Char, (∀ c ∈ previous, joinsAfter c = false) →
      replaceNames names previous false name = shown) :
    replaceNames names none false (before ++ name ++ after)
      = replaceNames names none false before ++ shown ++ replaceNames names none false after := by
  obtain ⟨hleft, hright⟩ := hfree
  rw [replaceNames_append hempty fun d hd => separates_of_not_joinsAfter hjoin (hright d hd)]
  congr 1
  rcases List.eq_nil_or_concat' before with rfl | ⟨init, d, rfl⟩
  · rw [List.nil_append, hshown none (by simp), replaceNames_end hempty, List.nil_append]
  · -- The last character before the name separates.
    have hd : joinsAfter d = false := hleft d (by simp)
    have hseparates := separates_of_not_joinsAfter hjoin hd
    rw [List.append_assoc, List.singleton_append, replaceNames_append_cons hseparates,
      replaceNames_append_cons hseparates, replaceNames_end hempty,
      hshown (some d) fun c hc => Option.some.inj hc ▸ hd, List.append_assoc,
      List.singleton_append]

/-! ## The first name that fits -/

/-- A name fits an occurrence of another one if it is the same, or its beginning up to a point. -/
theorem fits_iff {other name : List Char} (hname : ∀ c ∈ name, joinsAfter c = true) :
    Fits other name ↔ other = name ∨ other ++ ['.'] <+: name := by
  constructor
  · intro h
    obtain ⟨rest, rfl, hrest⟩ := h
    cases rest with
    | nil => exact .inl (List.append_nil other).symm
    | cons c rest =>
      have hc : joinsAfter c = true := hname c (by simp)
      rw [joinsAfter_eq, hrest c rfl, Bool.false_or, beq_iff_eq] at hc
      exact .inr ⟨rest, by rw [hc, List.append_assoc, List.singleton_append]⟩
  · intro h
    rcases h with rfl | ⟨rest, rfl⟩
    · exact ⟨[], (List.append_nil other).symm, by simp⟩
    · refine ⟨'.' :: rest, by simp, fun c hc => ?_⟩
      rw [← Option.some.inj hc]
      exact joinsBefore_point

/-- Among the names up to that of an occurrence there is a first one that fits it. -/
theorem exists_first_fits {i : Nat} {name : List Char} (hname : names[i]? = some name) :
    ∃ j first rest, j ≤ i ∧ names[j]? = some first ∧ name = first ++ rest
      ∧ (∀ c ∈ rest.head?, joinsBefore c = false)
      ∧ ∀ k < j, ∀ other, names[k]? = some other → ¬ Fits other name := by
  classical
  have hfits : ∃ j, ∃ first, names[j]? = some first ∧ Fits first name :=
    ⟨i, name, hname, [], (List.append_nil name).symm, by simp⟩
  obtain ⟨first, hfirst, rest, hrest, hhead⟩ := Nat.find_spec hfits
  refine ⟨Nat.find hfits, first, rest, ?_, hfirst, hrest, hhead, fun k hk other hother h => ?_⟩
  · exact Nat.find_min' hfits ⟨name, hname, [], (List.append_nil name).symm, by simp⟩
  · exact Nat.find_min hfits hk ⟨other, hother, h⟩

/-- The first name that fits is replaced by its mark, and the rest is kept. -/
theorem replaceNames_of_first_fits (hempty : [] ∉ names) {j : Nat} {first rest : List Char}
    {previous : Option Char} (hfirst : names[j]? = some first)
    (hpiece : ∀ c ∈ first ++ rest, joinsAfter c = true)
    (hrest : ∀ c ∈ rest.head?, joinsBefore c = false)
    (hleast : ∀ k < j, ∀ other, names[k]? = some other → ¬ Fits other (first ++ rest))
    (hprevious : ∀ c ∈ previous, joinsAfter c = false) :
    replaceNames names previous false (first ++ rest) = mark (j + 1) ++ rest := by
  obtain ⟨hj, hget⟩ := List.getElem?_eq_some_iff.1 hfirst
  have hsplit : names.take j ++ first :: names.drop (j + 1) = names := by
    rw [← hget, ← List.drop_eq_getElem_cons hj, List.take_append_drop]
  have hnone : ∀ other ∈ names.take j, ¬ Fits other (first ++ rest) := by
    intro other hother
    obtain ⟨k, hk, rfl⟩ := List.getElem_of_mem hother
    rw [List.length_take] at hk
    refine hleast k (by omega) _ ?_
    rw [List.getElem_take, List.getElem?_eq_getElem]
  have hne : first ≠ [] := fun h => hempty (h ▸ List.mem_of_getElem? hfirst)
  have hreplaced := replaceNames_piece (names.drop (j + 1)) hprevious hpiece hne hnone hrest
  rwa [hsplit, List.length_take_of_le (Nat.le_of_lt hj)] at hreplaced

/-- The first name that fits is the whole occurrence or its beginning up to a point, so its mark is
that of the occurrence exactly if no earlier name with a point is such a beginning. -/
theorem mark_append_eq_iff (hnodup : names.Nodup) {i j : Nat} {name first rest : List Char}
    (hpiece : ∀ c ∈ name, joinsAfter c = true) (hname : names[i]? = some name)
    (hji : j ≤ i) (hfirst : names[j]? = some first) (hsplit : name = first ++ rest)
    (hrest : ∀ c ∈ rest.head?, joinsBefore c = false)
    (hleast : ∀ k < j, ∀ other, names[k]? = some other → ¬ Fits other name) :
    mark (j + 1) ++ rest = mark (i + 1)
      ↔ ∀ k < i, ∀ other, names[k]? = some other → ¬ other ++ ['.'] <+: name := by
  constructor
  · intro hmark k hk other hother hprefix
    have hjk : j ≤ k := not_lt.1 fun h =>
      hleast k h other hother ((fits_iff hpiece).2 (.inr hprefix))
    rcases (fits_iff hpiece).1 ⟨rest, hsplit, hrest⟩ with rfl | ⟨others, rfl⟩
    · rw [List.append_right_eq_self.1 hsplit.symm, List.append_nil, mark_inj] at hmark
      omega
    · -- There is no point in a mark.
      rw [List.append_assoc, List.append_right_inj] at hsplit
      have hmem : '.' ∈ mark (i + 1) := by
        rw [← hmark, ← hsplit]
        simp
      exact absurd ((isToken_mark _).2 '.' hmem) (by decide)
  · intro hnone
    have hij : j = i := by
      rcases Nat.lt_or_eq_of_le hji with hlt | heq
      · rcases (fits_iff hpiece).1 ⟨rest, hsplit, hrest⟩ with rfl | hprefix
        · obtain ⟨hj, -⟩ := List.getElem?_eq_some_iff.1 hfirst
          exact (List.getElem?_inj hj hnodup).1 (hfirst.trans hname.symm)
        · exact absurd hprefix (hnone j hlt first hfirst)
      · exact heq
    subst hij
    obtain rfl : first = name := Option.some.inj (hfirst.symm.trans hname)
    rw [List.append_right_eq_self.1 hsplit.symm, List.append_nil]

/-! ## Occurrences in a key -/

/-- The key of a proof state with something shown in the middle of one of its texts, where names are
replaced in what stands before it and in what stands after it. -/
def keyShowing (c : HintContext) (left right : List String) (before shown after : List Char) :
    String :=
  assemble (left.map (abstractText c.names)
    ++ ((replaceNames c.names none false before).dropWhile isBlank ++ shown
        ++ trimEnd isBlank (replaceNames c.names none false after))
      :: right.map (abstractText c.names))

theorem keyShowing_inj {c : HintContext} {left right : List String}
    {before shown shown' after : List Char} :
    keyShowing c left right before shown after = keyShowing c left right before shown' after
      ↔ shown = shown' := by
  rw [keyShowing, keyShowing, assemble_slot_inj, List.append_left_inj, List.append_right_inj]

/-- A text of characters that join has no blank at its ends. -/
theorem isTrimmed_of_joinsAfter {cs : List Char} (h : ∀ c ∈ cs, joinsAfter c = true) :
    IsTrimmed isBlank cs := by
  have hblank : ∀ c ∈ cs, isBlank c = false := by
    intro c hc
    by_contra hblank
    rw [Bool.not_eq_false] at hblank
    exact absurd ((h c hc).symm.trans (joinsAfter_eq_false_of_isBlank hblank)) (by simp)
  exact ⟨fun c hc => hblank c (List.mem_of_mem_head? hc),
    fun c hc => hblank c (List.mem_of_mem_getLast? hc)⟩

/-- An occurrence that stands free has its place in the key. -/
theorem ofContext_of_occurrence {c : HintContext} (hempty : [] ∉ c.names)
    (hjoin : ∀ name ∈ c.names, ∀ d ∈ name, joinsAfter d = true) {left right : List String}
    {text : String} (htexts : c.texts = left ++ text :: right)
    {before name after shown : List Char} (htext : text.toList = before ++ name ++ after)
    (hfree : StandsFree before after)
    (hshown : ∀ previous : Option Char, (∀ d ∈ previous, joinsAfter d = false) →
      replaceNames c.names previous false name = shown)
    (hne : shown ≠ []) (htrimmed : IsTrimmed isBlank shown) :
    ofContext c = keyShowing c left right before shown after := by
  have habstract : abstractText c.names text
      = (replaceNames c.names none false before).dropWhile isBlank ++ shown
        ++ trimEnd isBlank (replaceNames c.names none false after) := by
    unfold abstractText
    rw [htext, replaceNames_occurrence hempty hjoin hfree hshown,
      Text.trim_append_append hne htrimmed]
  rw [ofContext_eq_assemble, htexts, List.map_append, List.map_cons, habstract]
  rfl

/-- What is said of the name at a place can be said of its characters. -/
theorem forall_names_getElem? {c : HintContext} {k : Nat} {p : List Char → Prop} :
    (∀ other, c.names[k]? = some other → p other)
      ↔ ∀ other, c.hypotheses.keys[k]? = some other → p other.toList := by
  rw [HintContext.names, List.getElem?_map]
  cases c.hypotheses.keys[k]? <;> simp

/-- **Whose mark an occurrence has.** Let the hypotheses have names that placeholders can have, and
let the name of one of them stand free in a type or in the goal. There it is replaced by its own
mark, and all else as without it, exactly if no earlier hypothesis has a name that with a point is
the beginning of it. In any case the first hypothesis whose name fits gives its mark, and what is
left of the name stays as it is. -/
theorem own_mark_iff {c : HintContext}
    (hgrammar : ∀ name ∈ c.hypotheses.keys, isPlaceholderName name.toList = true)
    {i : Nat} {name : String} (hname : c.hypotheses.keys[i]? = some name)
    {left right : List String} {text : String} (htexts : c.texts = left ++ text :: right)
    {before after : List Char} (htext : text.toList = before ++ name.toList ++ after)
    (hfree : StandsFree before after) :
    (ofContext c = keyShowing c left right before (mark (i + 1)) after
        ↔ ∀ j < i, ∀ other, c.hypotheses.keys[j]? = some other →
          ¬ other.toList ++ ['.'] <+: name.toList)
      ∧ ∃ j first rest, c.hypotheses.keys[j]? = some first
        ∧ (∀ k < j, ∀ other, c.hypotheses.keys[k]? = some other → ¬ Fits other.toList name.toList)
        ∧ name.toList = first.toList ++ rest ∧ (rest = [] ∨ ∃ others, rest = '.' :: others)
        ∧ ofContext c = keyShowing c left right before (mark (j + 1) ++ rest) after := by
  have hpieces : ∀ name ∈ c.names, name ≠ [] ∧ ∀ d ∈ name, joinsAfter d = true :=
    List.forall_mem_map.2 fun name hname => joinsAfter_of_isPlaceholderName (hgrammar name hname)
  have hempty : [] ∉ c.names := fun h => (hpieces [] h).1 rfl
  have hget : c.names[i]? = some name.toList := by
    rw [HintContext.names, List.getElem?_map, hname, Option.map_some]
  have hpiece : ∀ d ∈ name.toList, joinsAfter d = true := (hpieces _ (List.mem_of_getElem? hget)).2
  obtain ⟨j, _, rest, hji, hfirst, hsplit, hrest, hleast⟩ := exists_first_fits hget
  obtain ⟨first, hfirst', rfl⟩ : ∃ first, c.hypotheses.keys[j]? = some first ∧ first.toList = _ :=
    Option.map_eq_some_iff.1 (List.getElem?_map ▸ hfirst)
  have hpoint : rest = [] ∨ ∃ others, rest = '.' :: others := by
    rcases (fits_iff hpiece).1 ⟨rest, hsplit, hrest⟩ with heq | ⟨others, hothers⟩
    · exact .inl (List.append_right_eq_self.1 (heq ▸ hsplit.symm))
    · rw [hsplit, List.append_assoc, List.append_right_inj] at hothers
      exact .inr ⟨others, hothers.symm⟩
  have hkey : ofContext c = keyShowing c left right before (mark (j + 1) ++ rest) after := by
    refine ofContext_of_occurrence hempty (fun name hname => (hpieces name hname).2) htexts htext
      hfree (fun previous hprevious => ?_) (by simp [mark]) (isTrimmed_of_joinsAfter ?_)
    · rw [hsplit] at hpiece hleast ⊢
      exact replaceNames_of_first_fits hempty hfirst hpiece hrest hleast hprevious
    · intro d hd
      rcases List.mem_append.1 hd with hd | hd
      · exact joinsAfter_of_joinsBefore ((isToken_mark _).2 d hd)
      · exact hpiece d (hsplit ▸ List.mem_append_right _ hd)
  have hnodup : c.names.Nodup :=
    List.Nodup.map (fun _ _ h => String.toList_inj.1 h) c.hypotheses.nodup
  have hmark := mark_append_eq_iff hnodup hpiece hget hji hfirst hsplit hrest hleast
  simp only [forall_names_getElem?] at hmark hleast
  exact ⟨by rw [hkey, keyShowing_inj, hmark], j, first, rest, hfirst', hleast, hsplit, hpoint, hkey⟩

/-- A hypothesis and one that is named like a part of it, the longer name first. -/
def longerFirst : HintContext :=
  ⟨.empty, .ofList [("h.left", "P"), ("h", "P ∧ Q")], "h.left = (h).left"⟩

theorem own_mark_longerFirst :
    ofContext longerFirst = "_x1 : P, _x2 : P ∧ Q, ⊢ _x1 = (_x2).left"
      ∧ ofContext longerFirst
        = keyShowing longerFirst ["P", "P ∧ Q"] [] [] (mark 1) " = (h).left".toList
      ∧ ofContext longerFirst
        = keyShowing longerFirst ["P", "P ∧ Q"] [] "h.left = (".toList (mark 2)
          ").left".toList := by
  refine ⟨by decide +kernel, ?_, ?_⟩
  · refine (own_mark_iff (c := longerFirst) (i := 0) (by decide +kernel) rfl rfl rfl ?_).1.2 ?_
    · decide
    · simp
  · refine (own_mark_iff (c := longerFirst) (i := 1) (by decide +kernel) rfl rfl rfl ?_).1.2 ?_
    · decide
    · decide +kernel

/-- The same two with the shorter name first. -/
def shorterFirst : HintContext := ⟨.empty, .ofList [("h", "P"), ("h.left", "Q")], "h.left"⟩

/-- The whole goal is the name of the second hypothesis, and it is shown as a part of the first. -/
theorem part_of_first_shown :
    (∀ name ∈ shorterFirst.hypotheses.keys, isPlaceholderName name.toList = true)
      ∧ shorterFirst.hypotheses.keys[1]? = some shorterFirst.goal
      ∧ ofContext shorterFirst = "_x1 : P, _x2 : Q, ⊢ _x1.left"
      ∧ ofContext shorterFirst ≠ keyShowing shorterFirst ["P", "Q"] [] [] (mark 2) []
      ∧ keyShowing shorterFirst ["P", "Q"] [] [] (mark 2) [] = "_x1 : P, _x2 : Q, ⊢ _x2" := by
  decide +kernel

end Curriculum.GoalKey
