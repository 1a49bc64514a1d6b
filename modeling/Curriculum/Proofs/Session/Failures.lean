import Curriculum.Proofs.Session.Run

/-!
# When a directive fails

Directives fail for want of a world, or because of a number below one, and then
they leave everything as it was. A directive that lists names at a level mentions
them one after the other before it lists them. It stops at a name without
characters, and what was mentioned before that name stays (`session_mentionAll`).

Main statement: `process_fails_iff`. It says of every session and of every
directive that does not compile when it fails, for which reason, and what it
leaves behind. `empty_name_fails` is a level at which names are listed and one of
them is empty.
-/

namespace Curriculum

/-- A failure for want of a world. -/
def Failure.lacksWorld : Failure → Bool
  | levelBeforeWorld _ | partBeforeWorld _ | undeclaredWorld _ => true
  | _ => false

/-- A failure because of the numbers of levels. -/
def Failure.misnumbers : Failure → Bool
  | levelBelowOne .. | missingLevels .. => true
  | _ => false

/-- Whether a directive has no place outside of worlds. -/
def Directive.needsWorld : Directive → Bool
  | setLevelIndex _ | declareInventory .. | declareStatement _ => true
  | _ => false

namespace Session

/-! ## Names one after the other -/

/-- Names are mentioned up to the first that is empty, and nothing fails but that. -/
theorem failure_mentionAll (s : Session) (kind : Kind) (names : List String) :
    (s.mentionAll kind names).failure = if "" ∈ names then some .emptyName else none := by
  induction names generalizing s with
  | nil => rfl
  | cons name rest ih =>
    rw [mentionAll]
    split
    · next h => simp only [ih, List.mem_cons, Ne.symm h, false_or]
    · next h => rw [if_pos (List.mem_cons.2 (.inl (Decidable.not_not.1 h).symm)), failed]

/-- What is left is what mentioning the names before the first empty one leaves. -/
theorem session_mentionAll (s : Session) (kind : Kind) (names : List String) :
    (s.mentionAll kind names).session
      = (s.mentionAll kind (names.takeWhile (· ≠ ""))).session := by
  induction names generalizing s with
  | nil => rfl
  | cons name rest ih =>
    by_cases h : name = ""
    · rw [mentionAll, dif_neg (Decidable.not_not.2 h), List.takeWhile_cons_of_neg (by simp [h])]
      rfl
    · rw [List.takeWhile_cons_of_pos (by simp [h]), mentionAll, mentionAll, dif_pos h, dif_pos h, ih]

/-! ## Directives -/

/-- Why a directive fails, if it does. -/
def failureOf (s : Session) : Directive → Option Failure
  | .setLevelIndex index =>
    match s.currentWorld with
    | some w => if index < 1 then some (.levelBelowOne w.id index) else none
    | none => some (.levelBeforeWorld index)
  | .declareInventory listing kind names =>
    match s.currentWorld with
    | some _ => if s.currentLevel.isSome ∧ "" ∈ names then some .emptyName else none
    | none => some (.partBeforeWorld (listingText listing kind))
  | .declareStatement _ =>
    match s.currentWorld with
    | some _ => none
    | none => some (.partBeforeWorld "Statement")
  | _ => none

theorem failure_setLevelIndex (s : Session) (index : Int) :
    (s.setLevelIndex index).failure = s.failureOf (.setLevelIndex index) := by
  unfold setLevelIndex failureOf
  cases hw : s.currentWorld with
  | none => cases s.cursor.world? <;> rfl
  | some w =>
    obtain ⟨id, hid, -⟩ := Option.bind_eq_some_iff.1 hw
    rw [hid]
    dsimp only
    split <;> rfl

/-- A part of a level fails without a world, and at a level if what is done there fails. -/
theorem failure_atLevel (s : Session) (what : String) (act : Level → Outcome) :
    (s.atLevel what act).failure
      = match s.currentWorld with
        | some _ => s.currentLevel.bind fun l => (act l).failure
        | none => some (.partBeforeWorld what) := by
  unfold atLevel
  cases s.currentWorld with
  | none => rfl
  | some w => cases s.currentLevel <;> rfl

theorem failure_declareInventory (s : Session) (listing : Listing) (kind : Kind)
    (names : List String) :
    (s.declareInventory listing kind names).failure
      = s.failureOf (.declareInventory listing kind names) := by
  rw [declareInventory, failure_atLevel, failureOf]
  cases s.currentWorld with
  | none => rfl
  | some w =>
    cases s.currentLevel with
    | none => rfl
    | some l =>
      have h := s.failure_mentionAll kind names
      generalize s.mentionAll kind names = o at h ⊢
      obtain ⟨t, failure⟩ := o
      simp only [Option.isSome_some, true_and]
      cases failure <;> exact h

theorem failure_declareStatement (s : Session) (e : Exercise) :
    (s.declareStatement e).failure = s.failureOf (.declareStatement e) := by
  rw [declareStatement, failure_atLevel, failureOf]
  cases s.currentWorld with
  | none => rfl
  | some w =>
    cases s.currentLevel with
    | none => rfl
    | some l => cases hst : l.statement <;> simp [hst, done]

theorem failure_author (s : Session) (d : Directive) : (s.author d).failure = s.failureOf d := by
  cases d with
  | setLevelIndex index => exact s.failure_setLevelIndex index
  | declareInventory listing kind names => exact s.failure_declareInventory listing kind names
  | declareStatement e => exact s.failure_declareStatement e
  | _ => rfl

/-! ## What a failure leaves -/

theorem session_setLevelIndex_of_failure {s : Session} {index : Int} {failure : Failure}
    (h : (s.setLevelIndex index).failure = some failure) : (s.setLevelIndex index).session = s := by
  unfold setLevelIndex at h ⊢
  split
  · next id w hid hw =>
    rw [hid, hw] at h
    dsimp only at h
    split
    · rfl
    · next hindex =>
      rw [if_neg hindex] at h
      exact absurd h (by simp [done])
  · rfl

/-- What is done at the current level fails before it has done anything if there is no world. -/
theorem atLevel_of_failure {s : Session} {what : String} {act : Level → Outcome} {failure : Failure}
    (h : (s.atLevel what act).failure = some failure) :
    failure = .partBeforeWorld what ∧ (s.atLevel what act).session = s
      ∨ ∃ l, s.currentLevel = some l ∧ s.atLevel what act = act l := by
  unfold atLevel at h ⊢
  cases hw : s.currentWorld with
  | none =>
    rw [hw] at h
    exact .inl ⟨(Option.some.inj h).symm, rfl⟩
  | some w =>
    rw [hw] at h
    cases hl : s.currentLevel with
    | none =>
      rw [hl] at h
      exact absurd h (by simp [done])
    | some l => exact .inr ⟨l, rfl, rfl⟩

/-- A listing at a level fails while the names are mentioned, before anything is listed. -/
theorem session_declareInventory_of_failure {s : Session} {listing : Listing} {kind : Kind}
    {names : List String} {failure : Failure}
    (h : (s.declareInventory listing kind names).failure = some failure) :
    failure ≠ .emptyName ∧ (s.declareInventory listing kind names).session = s
      ∨ failure = .emptyName
        ∧ (s.declareInventory listing kind names).session
          = (s.mentionAll kind (names.takeWhile (· ≠ ""))).session := by
  rcases atLevel_of_failure h with ⟨hworld, hs⟩ | ⟨l, -, heq⟩
  · exact .inl ⟨by simp [hworld], hs⟩
  · refine .inr ?_
    rw [declareInventory, heq] at h ⊢
    have hfailure := s.failure_mentionAll kind names
    rw [← session_mentionAll]
    generalize s.mentionAll kind names = o at h hfailure ⊢
    obtain ⟨t, failure'⟩ := o
    cases failure' with
    | none => exact absurd h (by simp [done])
    | some failure' =>
      obtain rfl : failure' = failure := Option.some.inj h
      refine ⟨?_, rfl⟩
      split at hfailure
      · exact Option.some.inj hfailure
      · exact absurd hfailure (by simp)

/-- A directive that fails leaves everything as it was, unless it lists names. -/
theorem session_author_of_failure {s : Session} {d : Directive} {failure : Failure}
    (h : (s.author d).failure = some failure) :
    (s.author d).session = s ∨ ∃ listing kind names, d = .declareInventory listing kind names := by
  cases d with
  | setLevelIndex index => exact .inl (session_setLevelIndex_of_failure h)
  | declareInventory listing kind names => exact .inr ⟨listing, kind, names, rfl⟩
  | declareStatement e =>
    rcases atLevel_of_failure h with ⟨-, hs⟩ | ⟨l, -, heq⟩
    · exact .inl hs
    · -- At a level a statement does not fail.
      replace h : (s.declareStatement e).failure = some failure := h
      rw [declareStatement, heq] at h
      cases hst : l.statement <;> rw [hst] at h <;> exact absurd h (by simp [done])
  | _ => exact absurd h (by simp [author, done])

/-! ## All directives -/

theorem failure_process (s : Session) {d : Directive} (hd : d ≠ .compile) :
    (s.process d).failure = s.failureOf d := by
  rw [process_eq_author s hd, failure_author]
  rfl

theorem exists_lacksWorld_iff (s : Session) (d : Directive) :
    (∃ f, s.failureOf d = some f ∧ f.lacksWorld) ↔ d.needsWorld ∧ s.currentWorld = none := by
  cases d with
  | setLevelIndex index =>
    cases hw : s.currentWorld with
    | none => simp [failureOf, hw, Directive.needsWorld, Failure.lacksWorld]
    | some w => by_cases hindex : index < 1 <;> simp [failureOf, hw, hindex, Failure.lacksWorld]
  | declareInventory listing kind names =>
    cases hw : s.currentWorld with
    | none => simp [failureOf, hw, Directive.needsWorld, Failure.lacksWorld]
    | some w => simp [failureOf, hw, Failure.lacksWorld]
  | declareStatement e =>
    cases hw : s.currentWorld with
    | none => simp [failureOf, hw, Directive.needsWorld, Failure.lacksWorld]
    | some w => simp [failureOf, hw]
  | _ => simp [failureOf, Directive.needsWorld]

theorem exists_misnumbers_iff (s : Session) (d : Directive) :
    (∃ f, s.failureOf d = some f ∧ f.misnumbers)
      ↔ ∃ index, d = .setLevelIndex index ∧ s.currentWorld.isSome ∧ index < 1 := by
  cases d with
  | setLevelIndex index =>
    cases hw : s.currentWorld with
    | none => simp [failureOf, hw, Failure.misnumbers]
    | some w => by_cases hindex : index < 1 <;> simp [failureOf, hw, hindex, Failure.misnumbers]
  | declareInventory listing kind names =>
    cases hw : s.currentWorld <;> simp [failureOf, hw, Failure.misnumbers]
  | declareStatement e =>
    cases hw : s.currentWorld <;> simp [failureOf, hw, Failure.misnumbers]
  | _ => simp [failureOf]

theorem failureOf_eq_emptyName_iff (s : Session) (d : Directive) :
    s.failureOf d = some .emptyName
      ↔ ∃ listing kind names, d = .declareInventory listing kind names
          ∧ s.currentLevel.isSome ∧ "" ∈ names := by
  cases d with
  | setLevelIndex index =>
    cases hw : s.currentWorld with
    | none => simp [failureOf, hw]
    | some w => by_cases hindex : index < 1 <;> simp [failureOf, hw, hindex]
  | declareInventory listing kind names =>
    cases hw : s.currentWorld with
    | none => simp [failureOf, hw, currentLevel]
    | some w => simp [failureOf, hw, and_assoc]
  | declareStatement e => cases hw : s.currentWorld <;> simp [failureOf, hw]
  | _ => simp [failureOf]

/-- There is no other reason to fail. -/
theorem failureOf_cases {s : Session} {d : Directive} {failure : Failure}
    (h : s.failureOf d = some failure) :
    failure.lacksWorld ∨ failure.misnumbers ∨ failure = .emptyName := by
  unfold failureOf at h
  split at h
  · split at h
    · split at h
      · rw [← Option.some.inj h]
        exact .inr (.inl rfl)
      · exact absurd h (by simp)
    · rw [← Option.some.inj h]
      exact .inl rfl
  · split at h
    · split at h
      · exact .inr (.inr (Option.some.inj h).symm)
      · exact absurd h (by simp)
    · rw [← Option.some.inj h]
      exact .inl rfl
  · split at h
    · exact absurd h (by simp)
    · rw [← Option.some.inj h]
      exact .inl rfl
  · exact absurd h (by simp)

/-- **When a directive fails.** A directive that does not compile fails for want of a world exactly
if it needs one and there is no current world, because of a number exactly if it turns to a level
below one in a world, and besides only if it lists an empty name at a level. In the first two cases
it drops the bundle and leaves everything else as it was. At an empty name it leaves what mentioning
the names before it leaves, and lists nothing. -/
theorem process_fails_iff (s : Session) {d : Directive} (hd : d ≠ .compile) :
    ((∃ f, (s.process d).failure = some f ∧ f.lacksWorld)
        ↔ d.needsWorld ∧ s.currentWorld = none)
      ∧ ((∃ f, (s.process d).failure = some f ∧ f.misnumbers)
        ↔ ∃ index, d = .setLevelIndex index ∧ s.currentWorld.isSome ∧ index < 1)
      ∧ ((s.process d).failure = some .emptyName
        ↔ ∃ listing kind names, d = .declareInventory listing kind names
          ∧ s.currentLevel.isSome ∧ "" ∈ names)
      ∧ ∀ f, (s.process d).failure = some f →
        (f.lacksWorld ∨ f.misnumbers ∨ f = .emptyName)
          ∧ (f ≠ .emptyName → (s.process d).session = { s with bundle := none })
          ∧ ∀ listing kind names, f = .emptyName → d = .declareInventory listing kind names →
            (s.process d).session
              = ({ s with bundle := none : Session }.mentionAll kind
                  (names.takeWhile (· ≠ ""))).session := by
  have hfailure := failure_process s hd
  rw [hfailure]
  refine ⟨s.exists_lacksWorld_iff d, s.exists_misnumbers_iff d, s.failureOf_eq_emptyName_iff d,
    fun f hf => ⟨failureOf_cases hf, ?_, ?_⟩⟩
  · intro hne
    rw [← hfailure, process_eq_author s hd] at hf
    rw [process_eq_author s hd]
    rcases session_author_of_failure hf with hs | ⟨listing, kind, names, rfl⟩
    · exact hs
    · rcases session_declareInventory_of_failure hf with ⟨-, hs⟩ | ⟨hempty, -⟩
      · exact hs
      · exact absurd hempty hne
  · intro listing kind names hempty hlist
    subst hempty hlist
    rw [← hfailure, process_eq_author s hd] at hf
    rw [process_eq_author s hd]
    rcases session_declareInventory_of_failure hf with ⟨hne, -⟩ | ⟨-, hs⟩
    · exact absurd rfl hne
    · exact hs

/-- A level at which two names can be listed. -/
def levelInWorld : List Command := [.directive (.addWorld worldW), .directive (.setLevelIndex 1)]

/-- Without a world there is nowhere to list names, and nothing changes. -/
theorem process_fails_without_world :
    Directive.declareInventory .new .tactics ["rw"] ≠ .compile
      ∧ ((start .standard .empty).process (.declareInventory .new .tactics ["rw"])).failure
        = some (.partBeforeWorld "DeclareNew tactic")
      ∧ ((start .standard .empty).process (.declareInventory .new .tactics ["rw"])).session
        = start .standard .empty := by
  have hd : Directive.declareInventory .new .tactics ["rw"] ≠ .compile := by decide
  have hfailure : ((start .standard .empty).process (.declareInventory .new .tactics ["rw"])).failure
      = some (.partBeforeWorld "DeclareNew tactic") := by decide +kernel
  obtain ⟨-, -, -, hleft⟩ := process_fails_iff (start .standard .empty) hd
  exact ⟨hd, hfailure, (hleft _ hfailure).2.1 (by decide)⟩

/-- An empty name among those that are listed is fatal, and by then the name before it has been
mentioned. -/
theorem empty_name_fails :
    ((start .standard .empty).after levelInWorld).currentLevel.isSome
      ∧ (((start .standard .empty).after levelInWorld).process
          (.declareInventory .new .tactics ["rw", ""])).failure = some .emptyName
      ∧ (((start .standard .empty).after levelInWorld).process
          (.declareInventory .new .tactics ["rw", ""])).session.catalogue
        ≠ ((start .standard .empty).after levelInWorld).catalogue
      ∧ (((start .standard .empty).after levelInWorld).process
          (.declareInventory .new .tactics ["rw", ""])).session.messages
        ≠ ((start .standard .empty).after levelInWorld).messages := by
  decide +kernel

end Session
end Curriculum
