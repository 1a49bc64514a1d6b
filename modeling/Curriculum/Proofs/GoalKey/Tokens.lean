import Curriculum.Proofs.GoalKey.Replacing
import Curriculum.Proofs.Text.Digits
import Curriculum.Proofs.Text.Trimming
import Curriculum.Proofs.Text.Words

/-!
# Tokens of a text

A token is a longest run of word characters and apostrophes. Every text is taken
apart in one way into tokens and single characters between them
(`tokens_induction`), and `mapTokens` rewrites a text token by token, except for
tokens that follow a point.

If all names are single tokens, replacing them is such a rewriting
(`replaceNames_eq_mapTokens`): a name can only be found where a token starts, and
only the name that is the whole token fits, whatever other names it begins with.

A rewriting that makes tokens out of tokens leaves the way a text is taken apart
as it is, so two of them in a row are one (`mapTokens_mapTokens`). Blanks are
never rewritten, and it makes no difference whether they are trimmed before as
well (`trim_mapTokens`).
-/

namespace Curriculum.GoalKey

open Text (isBlank trim)

/-- A text of word characters and apostrophes, and at least one of them. -/
def IsToken (cs : List Char) : Prop := cs ≠ [] ∧ ∀ c ∈ cs, joinsBefore c = true

instance (cs : List Char) : Decidable (IsToken cs) :=
  decidable_of_iff (cs ≠ [] ∧ cs.all joinsBefore = true) (and_congr_right fun _ => List.all_eq_true)

theorem length_dropWhile_lt (p : Char → Bool) (c : Char) (cs : List Char) :
    (cs.dropWhile p).length < (c :: cs).length :=
  Nat.lt_succ_of_le (List.dropWhile_sublist p).length_le

/-- The longest runs of word characters and apostrophes, in their order. -/
def tokens (cs : List Char) : List (List Char) :=
  match cs with
  | [] => []
  | c :: rest =>
    if joinsBefore c then
      (c :: rest.takeWhile joinsBefore) :: tokens (rest.dropWhile joinsBefore)
    else tokens rest
termination_by cs.length
decreasing_by
  · exact length_dropWhile_lt joinsBefore c rest
  · exact Nat.lt_succ_self _

/-- Rewrites the tokens of a text that do not follow a point. With `afterPoint` there is a point
before the text. -/
def mapTokens (f : List Char → List Char) (afterPoint : Bool) (cs : List Char) : List Char :=
  match cs with
  | [] => []
  | c :: rest =>
    if joinsBefore c then
      let token := c :: rest.takeWhile joinsBefore
      (if afterPoint then token else f token) ++ mapTokens f false (rest.dropWhile joinsBefore)
    else c :: mapTokens f (c == '.') rest
termination_by cs.length
decreasing_by
  · exact length_dropWhile_lt joinsBefore c rest
  · exact Nat.lt_succ_self _

/-! ## Taking a text apart -/

/-- Induction along the tokens of a text. -/
theorem tokens_induction {motive : List Char → Prop} (nil : motive [])
    (separator : ∀ d rest, joinsBefore d = false → motive rest → motive (d :: rest))
    (token : ∀ t rest, IsToken t → (∀ c ∈ rest.head?, joinsBefore c = false) → motive rest →
      motive (t ++ rest))
    (cs : List Char) : motive cs := by
  induction cs using tokens.induct with
  | case1 => exact nil
  | case2 c rest hc ih =>
    have hrun : ∀ d ∈ rest.takeWhile joinsBefore, joinsBefore d = true := fun d hd =>
      List.mem_takeWhile_imp hd
    have h := token (c :: rest.takeWhile joinsBefore) (rest.dropWhile joinsBefore)
      ⟨by simp, List.forall_mem_cons.2 ⟨hc, hrun⟩⟩ Text.eq_false_of_head?_dropWhile ih
    rwa [List.cons_append, List.takeWhile_append_dropWhile] at h
  | case3 c rest hc ih => exact separator c rest (by simpa using hc) ih

/-- Where a run of characters of a class ends, it is cut off. -/
theorem takeWhile_dropWhile_append {p : Char → Bool} {cs rest : List Char}
    (hcs : ∀ c ∈ cs, p c = true) (hrest : ∀ c ∈ rest.head?, p c = false) :
    (cs ++ rest).takeWhile p = cs ∧ (cs ++ rest).dropWhile p = rest := by
  constructor
  · have hnil : rest.takeWhile p = [] := by
      cases rest with
      | nil => rfl
      | cons c rest => exact List.takeWhile_cons_of_neg (by simp [hrest c rfl])
    rw [List.takeWhile_append_of_pos hcs, hnil, List.append_nil]
  · rw [Text.dropWhile_append_of_head hrest, List.dropWhile_eq_nil_iff.2 hcs, List.nil_append]

theorem tokens_separator {d : Char} (hd : joinsBefore d = false) (rest : List Char) :
    tokens (d :: rest) = tokens rest := by
  rw [tokens, if_neg (by simp [hd])]

theorem tokens_append {t rest : List Char} (ht : IsToken t)
    (hrest : ∀ c ∈ rest.head?, joinsBefore c = false) :
    tokens (t ++ rest) = t :: tokens rest := by
  obtain ⟨hne, ht⟩ := ht
  cases t with
  | nil => exact absurd rfl hne
  | cons c t =>
    obtain ⟨hc, ht⟩ := List.forall_mem_cons.1 ht
    obtain ⟨htake, hdrop⟩ := takeWhile_dropWhile_append ht hrest
    rw [List.cons_append, tokens, if_pos hc, htake, hdrop]

/-! ## Rewriting tokens -/

section Rewriting

variable {f g : List Char → List Char} {afterPoint : Bool} {cs : List Char}

@[simp] theorem mapTokens_nil : mapTokens f afterPoint [] = [] := by rw [mapTokens]

theorem mapTokens_separator {d : Char} (hd : joinsBefore d = false) (rest : List Char) :
    mapTokens f afterPoint (d :: rest) = d :: mapTokens f (d == '.') rest := by
  rw [mapTokens, if_neg (by simp [hd])]

theorem mapTokens_append {t rest : List Char} (ht : IsToken t)
    (hrest : ∀ c ∈ rest.head?, joinsBefore c = false) :
    mapTokens f afterPoint (t ++ rest)
      = (if afterPoint then t else f t) ++ mapTokens f false rest := by
  obtain ⟨hne, ht⟩ := ht
  cases t with
  | nil => exact absurd rfl hne
  | cons c t =>
    obtain ⟨hc, ht⟩ := List.forall_mem_cons.1 ht
    obtain ⟨htake, hdrop⟩ := takeWhile_dropWhile_append ht hrest
    rw [List.cons_append, mapTokens, if_pos hc]
    simp only [htake, hdrop]

/-- What starts with no token is not rewritten to start with one. -/
theorem head?_mapTokens (h : ∀ c ∈ cs.head?, joinsBefore c = false) :
    ∀ c ∈ (mapTokens f afterPoint cs).head?, joinsBefore c = false := by
  cases cs with
  | nil => simp
  | cons d rest =>
    have hd : joinsBefore d = false := h d rfl
    rw [mapTokens_separator hd]
    exact h

/-- Only what is made of the tokens matters. -/
theorem mapTokens_congr (h : ∀ t ∈ tokens cs, f t = g t) :
    mapTokens f afterPoint cs = mapTokens g afterPoint cs := by
  induction cs using tokens_induction generalizing afterPoint with
  | nil => rw [mapTokens_nil, mapTokens_nil]
  | separator d rest hd ih =>
    rw [tokens_separator hd] at h
    rw [mapTokens_separator hd, mapTokens_separator hd, ih h]
  | token t rest ht hrest ih =>
    rw [tokens_append ht hrest] at h
    obtain ⟨hfg, h⟩ := List.forall_mem_cons.1 h
    rw [mapTokens_append ht hrest, mapTokens_append ht hrest, hfg, ih h]

/-- A rewriting makes tokens out of tokens. -/
def KeepsTokens (f : List Char → List Char) : Prop := ∀ t, IsToken t → IsToken (f t)

theorem KeepsTokens.ite (hf : KeepsTokens f) {t : List Char} (ht : IsToken t) :
    IsToken (if afterPoint then t else f t) := by
  split
  · exact ht
  · exact hf t ht

/-- **Two rewritings** in a row are one. -/
theorem mapTokens_mapTokens (hg : KeepsTokens g) :
    mapTokens f afterPoint (mapTokens g afterPoint cs)
      = mapTokens (fun t => f (g t)) afterPoint cs := by
  induction cs using tokens_induction generalizing afterPoint with
  | nil => simp
  | separator d rest hd ih =>
    rw [mapTokens_separator hd, mapTokens_separator hd, mapTokens_separator hd, ih]
  | token t rest ht hrest ih =>
    rw [mapTokens_append ht hrest, mapTokens_append ht hrest,
      mapTokens_append (hg.ite ht) (head?_mapTokens hrest), ih]
    split <;> rfl

/-- A text is kept if its tokens are. -/
theorem mapTokens_eq_self (h : ∀ t ∈ tokens cs, f t = t) : mapTokens f afterPoint cs = cs := by
  induction cs using tokens_induction generalizing afterPoint with
  | nil => exact mapTokens_nil
  | separator d rest hd ih =>
    rw [tokens_separator hd] at h
    rw [mapTokens_separator hd, ih h]
  | token t rest ht hrest ih =>
    rw [tokens_append ht hrest] at h
    obtain ⟨hf, h⟩ := List.forall_mem_cons.1 h
    rw [mapTokens_append ht hrest, hf, ite_self, ih h]

/-! ## Rewriting and trimming -/

theorem joinsAfter_eq_false_of_isBlank {c : Char} (h : isBlank c = true) :
    joinsAfter c = false := by
  have hne : ∀ d, isBlank d = false → (c == d) = false := fun d hd =>
    beq_eq_false_iff_ne.2 fun hc => absurd (hc ▸ h) (by simp [hd])
  rw [joinsAfter, Text.isWord_eq_false_of_isBlank h, hne '.' (by decide), hne '\'' (by decide)]
  rfl

theorem joinsBefore_eq_false_of_isBlank {c : Char} (h : isBlank c = true) :
    joinsBefore c = false := by
  have hjoin := joinsAfter_eq_false_of_isBlank h
  rw [joinsAfter_eq, Bool.or_eq_false_iff] at hjoin
  exact hjoin.1

/-- Blanks in front of a text stay there. -/
theorem mapTokens_blanks_append {blanks : List Char} (h : ∀ c ∈ blanks, isBlank c = true) :
    mapTokens f false (blanks ++ cs) = blanks ++ mapTokens f false cs := by
  induction blanks with
  | nil => rfl
  | cons c blanks ih =>
    obtain ⟨hc, h⟩ := List.forall_mem_cons.1 h
    have hjoin := joinsAfter_eq_false_of_isBlank hc
    rw [joinsAfter_eq, Bool.or_eq_false_iff] at hjoin
    rw [List.cons_append, mapTokens_separator hjoin.1, hjoin.2, ih h, List.cons_append]

/-- A text that starts with no token is rewritten by itself, whatever stands before. -/
theorem mapTokens_append_of_head {rest : List Char}
    (hrest : ∀ c ∈ rest.head?, joinsBefore c = false) :
    mapTokens f afterPoint (cs ++ rest)
      = mapTokens f afterPoint cs ++ mapTokens f false rest := by
  induction cs using tokens_induction generalizing afterPoint with
  | nil =>
    cases rest with
    | nil => simp
    | cons d rest =>
      have hd : joinsBefore d = false := hrest d rfl
      rw [mapTokens_nil, List.nil_append, List.nil_append, mapTokens_separator hd,
        mapTokens_separator hd]
  | separator d cs hd ih =>
    rw [List.cons_append, mapTokens_separator hd, mapTokens_separator hd, ih, List.cons_append]
  | token t cs ht hcs ih =>
    have hcs' : ∀ c ∈ (cs ++ rest).head?, joinsBefore c = false := by
      cases cs with
      | nil => exact hrest
      | cons d cs => exact hcs
    rw [List.append_assoc, mapTokens_append ht hcs', mapTokens_append ht hcs, ih,
      List.append_assoc]

/-- **Trimming** a text before it is rewritten makes no difference to the trimmed outcome. -/
theorem trim_mapTokens (f : List Char → List Char) (cs : List Char) :
    trim isBlank (mapTokens f false cs) = trim isBlank (mapTokens f false (trim isBlank cs)) := by
  obtain ⟨before, after, hcs, hbefore, hafter⟩ := Text.exists_trim isBlank cs
  have hhead : ∀ c ∈ after.head?, joinsBefore c = false := fun c hc =>
    joinsBefore_eq_false_of_isBlank (hafter c (List.mem_of_mem_head? hc))
  have hblanks : mapTokens f false after = after := by
    have h : mapTokens f false (after ++ []) = _ := mapTokens_blanks_append hafter
    rwa [mapTokens_nil, List.append_nil] at h
  calc trim isBlank (mapTokens f false cs)
      = trim isBlank (mapTokens f false (before ++ trim isBlank cs ++ after)) := by rw [← hcs]
    _ = trim isBlank (before ++ mapTokens f false (trim isBlank cs) ++ after) := by
        rw [mapTokens_append_of_head hhead, mapTokens_blanks_append hbefore, hblanks]
    _ = trim isBlank (mapTokens f false (trim isBlank cs)) :=
        Text.trim_append_of_all hbefore hafter

end Rewriting

/-! ## Marks -/

/-- A mark is a token. -/
theorem isToken_mark (position : Nat) : IsToken (mark position) := by
  refine ⟨by simp [mark], fun c hc => ?_⟩
  have hpart : isIdentifierPart c = true := by
    rcases List.mem_cons.1 hc with rfl | hc
    · decide
    rcases List.mem_cons.1 hc with rfl | hc
    · decide
    · have hdigit := Nat.isDigit_of_mem_toDigits (by decide) (by decide) hc
      rw [isIdentifierPart, Char.isAlphanum, hdigit, Bool.or_true, Bool.true_or]
  rw [joinsBefore, Text.isWord_of_isIdentifierPart hpart, Bool.true_or]

/-- Different positions have different marks. -/
theorem mark_inj {position other : Nat} : mark position = mark other ↔ position = other := by
  constructor
  · exact fun h => toDigits_inj (List.cons.inj (List.cons.inj h).2).2
  · exact congrArg mark

/-! ## Names that are tokens -/

section Names

variable {names : List (List Char)} {before : Option Char}

/-- What a token is replaced by: the mark of its position if it is a name. -/
def markOf (names : List (List Char)) (token : List Char) : List Char :=
  if token ∈ names then mark (names.idxOf token + 1) else token

theorem markOf_of_mem {token : List Char} (h : token ∈ names) :
    markOf names token = mark (names.idxOf token + 1) := if_pos h

theorem markOf_of_notMem {token : List Char} (h : token ∉ names) : markOf names token = token :=
  if_neg h

/-- Of names without repetition, each has the mark of its place. -/
theorem markOf_getElem (hnodup : names.Nodup) {i : Nat} (hi : i < names.length) :
    markOf names names[i] = mark (i + 1) := by
  rw [markOf_of_mem (List.getElem_mem hi), hnodup.idxOf_getElem]

theorem keepsTokens_markOf (names : List (List Char)) : KeepsTokens (markOf names) := by
  intro token htoken
  unfold markOf
  split
  · exact isToken_mark _
  · exact htoken

/-- A name fits a token only if it is the whole token. -/
theorem fits_token_iff {name token : List Char} (htoken : IsToken token) :
    Fits name token ↔ name = token := by
  constructor
  · intro h
    obtain ⟨rest, rfl, hrest⟩ := h
    cases rest with
    | nil => exact (List.append_nil name).symm
    | cons c rest =>
      have hc : joinsBefore c = true := htoken.2 c (by simp)
      exact absurd (hc.symm.trans (hrest c rfl)) (by simp)
  · intro h
    exact ⟨[], by rw [h, List.append_nil], by simp⟩

/-- A token by itself is replaced if it is a name. -/
theorem replaceNames_token {token : List Char} (htoken : IsToken token)
    (hbefore : ∀ c ∈ before, joinsAfter c = false) :
    replaceNames names before false token = markOf names token := by
  have hpiece : ∀ c ∈ token, joinsAfter c = true := fun c hc =>
    joinsAfter_of_joinsBefore (htoken.2 c hc)
  by_cases hmem : token ∈ names
  · rw [markOf_of_mem hmem]
    obtain ⟨earlier, later, rfl, hearlier⟩ := List.eq_append_cons_of_mem hmem
    have hfirst : ∀ other ∈ earlier, ¬ Fits other (token ++ []) := by
      intro other hother h
      rw [List.append_nil, fits_token_iff htoken] at h
      exact hearlier (h ▸ hother)
    have hpiece' : ∀ c ∈ token ++ [], joinsAfter c = true := by rwa [List.append_nil]
    have hreplaced := replaceNames_piece later hbefore hpiece' htoken.1 hfirst (by simp)
    rw [List.append_nil, List.append_nil] at hreplaced
    rw [hreplaced, List.idxOf_append_of_notMem hearlier, List.idxOf_cons_self, Nat.add_zero]
  · rw [markOf_of_notMem hmem]
    refine replaceNames_piece_of_none hbefore hpiece fun name hname h => ?_
    exact hmem ((fits_token_iff htoken).1 h ▸ hname)

/-- **Replacing names** that are single tokens is rewriting the text token by token. -/
theorem replaceNames_eq_mapTokens (hnames : ∀ name ∈ names, IsToken name)
    (hbefore : ∀ c ∈ before, joinsBefore c = false) (cs : List Char) :
    replaceNames names before false cs = mapTokens (markOf names) (before == some '.') cs := by
  have hempty : [] ∉ names := fun h => (hnames [] h).1 rfl
  have hseparates : ∀ d, joinsBefore d = false → Separates names d := by
    intro d hd
    refine ⟨fun name hname hmem => ?_, hd⟩
    exact absurd (((hnames name hname).2 d hmem).symm.trans hd) (by simp)
  induction cs using tokens_induction generalizing before with
  | nil => rw [mapTokens_nil, replaceNames_end hempty]
  | separator d rest hd ih =>
    have hd' : ∀ c ∈ some d, joinsBefore c = false := by
      intro c hc
      rwa [← Option.some.inj hc]
    have hsplit := replaceNames_append_cons (hseparates d hd) before false [] rest
    rw [List.nil_append, replaceNames_end hempty, List.nil_append] at hsplit
    rw [hsplit, mapTokens_separator hd, ih hd']
    rfl
  | token t rest ht hrest ih =>
    have hrest' : ∀ d ∈ rest.head?, Separates names d := fun d hd => hseparates d (hrest d hd)
    rw [replaceNames_append hempty hrest', mapTokens_append ht hrest, ih (by simp)]
    congr 1
    split
    · next hpoint =>
      rw [beq_iff_eq.1 hpoint]
      exact replaceNames_of_joined (by decide) fun c hc => joinsAfter_of_joinsBefore (ht.2 c hc)
    · next hpoint =>
      refine replaceNames_token ht fun c hc => ?_
      have hne : (c == '.') = false := beq_eq_false_iff_ne.2 fun he => by
        rw [Option.mem_def.1 hc, he] at hpoint
        exact hpoint (by simp)
      rw [joinsAfter_eq, hbefore c hc, hne, Bool.or_self]

end Names
end Curriculum.GoalKey
