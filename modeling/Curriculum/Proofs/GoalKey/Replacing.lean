import Mathlib.Data.List.Basic
import Curriculum.GoalKey

/-!
# Replacing names in a text

Names are searched for from left to right, and a name that is found is taken out
of the text before the search goes on. So what happens to a piece of a text could
depend on everything before it. It does not, because of two kinds of characters.

A character that neither belongs to a name nor joins a name to what follows
separates: the texts on its two sides are replaced each by itself
(`replaceNames_append_cons`). A character that joins what follows to itself keeps
it as it is, up to the next character that does not join
(`replaceNames_of_joined`). Between two separators there is a piece of characters
that all join. The first name that `Fits` it is replaced (`replaceNames_piece`),
and if there is none, nothing in it is (`replaceNames_piece_of_none`).
-/

namespace Curriculum.GoalKey

variable {names : List (List Char)} {before : Option Char} {mustAdvance : Bool}

theorem joinsAfter_eq (c : Char) : joinsAfter c = (joinsBefore c || c == '.') := by
  unfold joinsAfter joinsBefore
  cases Text.isWord c <;> cases c == '.' <;> cases c == '\'' <;> rfl

theorem joinsAfter_of_joinsBefore {c : Char} (h : joinsBefore c = true) : joinsAfter c = true := by
  rw [joinsAfter_eq, h, Bool.true_or]

theorem joinsBefore_point : joinsBefore '.' = false := by decide

/-! ## One step -/

theorem occurrenceAt_of_joinsAfter {c : Char} (h : joinsAfter c = true) (cs : List Char) :
    occurrenceAt names (some c) mustAdvance cs = none := by
  rw [occurrenceAt, Option.any_some, if_pos h]

theorem occurrenceAt_of_not_joinsAfter (h : ∀ c ∈ before, joinsAfter c = false) (cs : List Char) :
    occurrenceAt names before mustAdvance cs = nameAt mustAdvance 1 names cs := by
  unfold occurrenceAt
  cases before with
  | none => rfl
  | some c => rw [Option.any_some, if_neg (by simp [h c rfl])]

/-- The empty name is found. -/
theorem replaceNames_of_empty {cs : List Char} {o : Occurrence}
    (h : occurrenceAt names before mustAdvance cs = some o) (hname : o.name = []) :
    replaceNames names before mustAdvance cs
      = mark o.position ++ replaceNames names before true cs := by
  rw [replaceNames]
  split
  · next o' ho' =>
    obtain rfl := Option.some.inj (h.symm.trans ho')
    rw [dif_pos hname]
  · next hnone => exact absurd (h.symm.trans hnone) (by simp)

/-- A name with characters is found. -/
theorem replaceNames_of_name {cs : List Char} {o : Occurrence}
    (h : occurrenceAt names before mustAdvance cs = some o) (hname : o.name ≠ []) :
    replaceNames names before mustAdvance cs
      = mark o.position ++ replaceNames names o.name.getLast? false o.rest := by
  rw [replaceNames]
  split
  · next o' ho' =>
    obtain rfl := Option.some.inj (h.symm.trans ho')
    rw [dif_neg hname]
  · next hnone => exact absurd (h.symm.trans hnone) (by simp)

/-- No name is found, and the text is at its end. -/
theorem replaceNames_nil (h : occurrenceAt names before mustAdvance [] = none) :
    replaceNames names before mustAdvance [] = [] := by
  rw [replaceNames]
  split
  · next o ho => exact absurd (ho.symm.trans h) (by simp)
  · rfl

/-- No name is found, and the text goes on by a character. -/
theorem replaceNames_cons {c : Char} {cs : List Char}
    (h : occurrenceAt names before mustAdvance (c :: cs) = none) :
    replaceNames names before mustAdvance (c :: cs)
      = c :: replaceNames names (some c) false cs := by
  rw [replaceNames]
  split
  · next o ho => exact absurd (ho.symm.trans h) (by simp)
  · rfl

/-! ## Separators -/

/-- The character neither belongs to one of the names nor joins a name to what follows. -/
structure Separates (names : List (List Char)) (d : Char) : Prop where
  notMem : ∀ name ∈ names, d ∉ name
  free : joinsBefore d = false

/-- An occurrence in a text that goes on. -/
def Occurrence.followedBy (o : Occurrence) (cs : List Char) : Occurrence :=
  { o with rest := o.rest ++ cs }

theorem after?_append_cons {name cs rest : List Char} {d : Char} (hd : d ∉ name) :
    after? name (cs ++ d :: rest) = (after? name cs).map (· ++ d :: rest) := by
  induction name generalizing cs with
  | nil => rfl
  | cons c name ih =>
    rw [List.mem_cons, not_or] at hd
    cases cs with
    | nil => exact if_neg (Ne.symm hd.1)
    | cons e cs =>
      simp only [List.cons_append, after?]
      split
      · exact ih hd.2
      · rfl

/-- A separator is for the names before it like the end of the text. -/
theorem nameAt_append_cons {d : Char} (hd : Separates names d) (position : Nat)
    (cs rest : List Char) :
    nameAt mustAdvance position names (cs ++ d :: rest)
      = (nameAt mustAdvance position names cs).map (·.followedBy (d :: rest)) := by
  induction names generalizing position with
  | nil => rfl
  | cons name names ih =>
    obtain ⟨hmem, hfree⟩ := hd
    obtain ⟨hname, hnames⟩ := List.forall_mem_cons.1 hmem
    have hrest := ih ⟨hnames, hfree⟩ (position + 1)
    simp only [nameAt, after?_append_cons hname]
    cases after? name cs with
    | none => exact hrest
    | some left =>
      -- The first character after the name is the same, or it is the separator.
      have hhead : (left ++ d :: rest).head?.any joinsBefore = left.head?.any joinsBefore := by
        cases left with
        | nil => simp [hfree]
        | cons e left => rfl
      simp only [Option.map_some, hhead]
      split
      · rfl
      · exact hrest

theorem occurrenceAt_append_cons {d : Char} (hd : Separates names d) (cs rest : List Char) :
    occurrenceAt names before mustAdvance (cs ++ d :: rest)
      = (occurrenceAt names before mustAdvance cs).map (·.followedBy (d :: rest)) := by
  unfold occurrenceAt
  split
  · rfl
  · exact nameAt_append_cons hd 1 cs rest

/-- **A separator** divides a text into two that are replaced each by itself. -/
theorem replaceNames_append_cons {d : Char} (hd : Separates names d) (before : Option Char)
    (mustAdvance : Bool) (cs rest : List Char) :
    replaceNames names before mustAdvance (cs ++ d :: rest)
      = replaceNames names before mustAdvance cs
        ++ d :: replaceNames names (some d) false rest := by
  induction before, mustAdvance, cs using replaceNames.induct names with
  | case1 before mustAdvance cs o ho hname ih =>
    have ho' := (occurrenceAt_append_cons hd cs rest).trans (congrArg _ ho)
    rw [replaceNames_of_empty ho hname, replaceNames_of_empty ho' hname, ih, List.append_assoc]
    rfl
  | case2 before mustAdvance cs o ho hname ih =>
    have ho' := (occurrenceAt_append_cons hd cs rest).trans (congrArg _ ho)
    rw [replaceNames_of_name ho hname, replaceNames_of_name ho' hname, List.append_assoc, ← ih]
    rfl
  | case3 before mustAdvance hnone =>
    have hnone' := (occurrenceAt_append_cons hd [] rest).trans (congrArg _ hnone)
    rw [replaceNames_nil hnone, List.nil_append]
    exact replaceNames_cons hnone'
  | case4 before mustAdvance c cs hnone ih =>
    have hnone' := (occurrenceAt_append_cons hd (c :: cs) rest).trans (congrArg _ hnone)
    rw [replaceNames_cons hnone, List.cons_append, List.cons_append, ← ih]
    exact replaceNames_cons hnone'

/-! ## What is joined to the text before it -/

/-- Nothing is replaced as long as every character is joined to the one before. -/
theorem replaceNames_of_joined {c : Char} {cs : List Char} (hc : joinsAfter c = true)
    (hcs : ∀ d ∈ cs, joinsAfter d = true) :
    replaceNames names (some c) mustAdvance cs = cs := by
  induction cs generalizing c mustAdvance with
  | nil => exact replaceNames_nil (occurrenceAt_of_joinsAfter hc [])
  | cons d cs ih =>
    obtain ⟨hd, hcs⟩ := List.forall_mem_cons.1 hcs
    rw [replaceNames_cons (occurrenceAt_of_joinsAfter hc _), ih hd hcs]

/-! ## Pieces -/

/-- The text starts with the name, and the name is not joined to what follows. -/
def Fits (name cs : List Char) : Prop :=
  ∃ rest, cs = name ++ rest ∧ ∀ c ∈ rest.head?, joinsBefore c = false

theorem nameAt_cons_of_fits {name rest : List Char} (position : Nat)
    (hrest : ∀ c ∈ rest.head?, joinsBefore c = false) :
    nameAt false position (name :: names) (name ++ rest) = some ⟨position, name, rest⟩ := by
  have hafter : after? name (name ++ rest) = some rest := after?_eq_some_iff.2 rfl
  have hhead : rest.head?.any joinsBefore = false := by
    cases rest with
    | nil => rfl
    | cons c rest => exact hrest c rfl
  simp [nameAt, hafter, hhead]

theorem nameAt_cons_of_not_fits {name cs : List Char} (position : Nat) (h : ¬ Fits name cs) :
    nameAt false position (name :: names) cs = nameAt false (position + 1) names cs := by
  simp only [nameAt]
  split
  · next rest hrest =>
    refine if_neg fun hhead => h ⟨rest, after?_eq_some_iff.1 hrest, ?_⟩
    intro c hc
    rw [Option.mem_def.1 hc] at hhead
    simpa using hhead
  · rfl

/-- The first name that fits is found. -/
theorem nameAt_of_fits {names : List (List Char)} {name rest : List Char}
    (after : List (List Char)) (position : Nat)
    (hfirst : ∀ other ∈ names, ¬ Fits other (name ++ rest))
    (hrest : ∀ c ∈ rest.head?, joinsBefore c = false) :
    nameAt false position (names ++ name :: after) (name ++ rest)
      = some ⟨position + names.length, name, rest⟩ := by
  induction names generalizing position with
  | nil => exact nameAt_cons_of_fits position hrest
  | cons other names ih =>
    obtain ⟨hother, hfirst⟩ := List.forall_mem_cons.1 hfirst
    rw [List.cons_append, nameAt_cons_of_not_fits position hother, ih (position + 1) hfirst,
      List.length_cons, Nat.add_right_comm, Nat.add_assoc]

/-- Nothing is found if no name fits. -/
theorem nameAt_of_not_fits {cs : List Char} (position : Nat)
    (h : ∀ name ∈ names, ¬ Fits name cs) : nameAt false position names cs = none := by
  induction names generalizing position with
  | nil => rfl
  | cons name names ih =>
    obtain ⟨hname, hnames⟩ := List.forall_mem_cons.1 h
    rw [nameAt_cons_of_not_fits position hname, ih (position + 1) hnames]

/-- Where all characters join, the first name that fits the piece is replaced, and what follows it
is kept. -/
theorem replaceNames_piece {earlier : List (List Char)} {name rest : List Char}
    (later : List (List Char))
    (hbefore : ∀ c ∈ before, joinsAfter c = false)
    (hpiece : ∀ c ∈ name ++ rest, joinsAfter c = true) (hname : name ≠ [])
    (hfirst : ∀ other ∈ earlier, ¬ Fits other (name ++ rest))
    (hrest : ∀ c ∈ rest.head?, joinsBefore c = false) :
    replaceNames (earlier ++ name :: later) before false (name ++ rest)
      = mark (earlier.length + 1) ++ rest := by
  have hfound := nameAt_of_fits later 1 hfirst hrest
  rw [← occurrenceAt_of_not_joinsAfter hbefore] at hfound
  rw [replaceNames_of_name hfound hname, Nat.add_comm 1]
  obtain ⟨init, last, rfl⟩ := (List.eq_nil_or_concat' name).resolve_left hname
  rw [List.getLast?_concat, replaceNames_of_joined]
  · exact hpiece last (by simp)
  · exact fun c hc => hpiece c (List.mem_append_right _ hc)

/-- Where all characters join and no name fits the piece, it is kept. -/
theorem replaceNames_piece_of_none {cs : List Char}
    (hbefore : ∀ c ∈ before, joinsAfter c = false) (hpiece : ∀ c ∈ cs, joinsAfter c = true)
    (hnone : ∀ name ∈ names, ¬ Fits name cs) :
    replaceNames names before false cs = cs := by
  have hfound := nameAt_of_not_fits 1 hnone
  rw [← occurrenceAt_of_not_joinsAfter hbefore] at hfound
  cases cs with
  | nil => exact replaceNames_nil hfound
  | cons c cs =>
    obtain ⟨hc, hcs⟩ := List.forall_mem_cons.1 hpiece
    rw [replaceNames_cons hfound, replaceNames_of_joined hc hcs]

/-! ## Texts one after the other -/

/-- Nothing is found at the end of a text if all names have characters. -/
theorem replaceNames_end (hnames : [] ∉ names) : replaceNames names before false [] = [] := by
  refine replaceNames_nil ?_
  unfold occurrenceAt
  split
  · rfl
  · refine nameAt_of_not_fits 1 fun name hname h => ?_
    obtain ⟨rest, hrest, -⟩ := h
    obtain ⟨rfl, -⟩ := List.append_eq_nil_iff.1 hrest.symm
    exact hnames hname

/-- A text that starts with a separator is replaced by itself, whatever stands before. -/
theorem replaceNames_append (hnames : [] ∉ names) {cs rest : List Char}
    (hrest : ∀ d ∈ rest.head?, Separates names d) :
    replaceNames names before mustAdvance (cs ++ rest)
      = replaceNames names before mustAdvance cs ++ replaceNames names none false rest := by
  cases rest with
  | nil => rw [replaceNames_end hnames, List.append_nil, List.append_nil]
  | cons d rest =>
    have halone := replaceNames_append_cons (hrest d rfl) none false [] rest
    rw [replaceNames_end hnames, List.nil_append, List.nil_append] at halone
    rw [replaceNames_append_cons (hrest d rfl), halone]

end Curriculum.GoalKey
