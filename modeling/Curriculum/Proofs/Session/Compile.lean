import Curriculum.Proofs.Availability.Compiling
import Curriculum.Proofs.Session.Run

/-!
# Compiling a session

A session compiles its game after it has withdrawn what the last compilation
said. `compile_of_error` and `compile_of_ok` are the two outcomes: an attempt
that fails keeps the bundle and says nothing, one that succeeds has a new bundle
and adds what there is to say at the end of the log. Either way the game and the
catalogue are those that the compilation leaves.
-/

namespace Curriculum

/-- A level without the messages of compilations. -/
def Level.withdrawn (l : Level) : Level :=
  { l with diagnostics := l.diagnostics.filter (·.stage = .authoring) }

namespace Session

theorem game_withdraw (s : Session) : s.withdraw.game = s.game.mapLevels Level.withdrawn := rfl

/-- What compiling the game of a session leaves. -/
def compilation (s : Session) : Compilation :=
  s.withdraw.game.compile s.graph s.catalogue s.declarations s.settings.notFoundText

theorem compile_of_error {s : Session} {failure : Failure}
    (h : s.compilation.result = .error failure) :
    s.compile
      = ⟨{ s.withdraw with game := s.compilation.game, catalogue := s.compilation.catalogue },
          some failure⟩ := by
  rw [compilation] at h ⊢
  unfold compile
  dsimp only [withdraw] at h ⊢
  rw [h]
  rfl

theorem compile_of_ok {s : Session} {bundle : Bundle} (h : s.compilation.result = .ok bundle) :
    s.compile
      = ⟨{ s.withdraw with
            game := s.compilation.game
            catalogue := s.compilation.catalogue
            messages := s.withdraw.messages ++ s.compilation.messages
            bundle := some bundle }, none⟩ := by
  rw [compilation] at h ⊢
  unfold compile
  dsimp only [withdraw] at h ⊢
  rw [h]
  rfl

/-- A compilation fails for the reason that it gives. -/
theorem failure_compile_eq_some_iff {s : Session} {failure : Failure} :
    s.compile.failure = some failure ↔ s.compilation.result = .error failure := by
  cases h : s.compilation.result with
  | error f => simp [compile_of_error h]
  | ok bundle => simp [compile_of_ok h]

theorem failure_compile_eq_none_iff {s : Session} :
    s.compile.failure = none ↔ ∃ bundle, s.compilation.result = .ok bundle := by
  cases h : s.compilation.result with
  | error failure => simp [compile_of_error h]
  | ok bundle => simp [compile_of_ok h]

/-- Whatever the outcome, the game and the catalogue are those that the compilation leaves. -/
theorem game_compile (s : Session) :
    s.compile.session.game = s.compilation.game
      ∧ s.compile.session.catalogue = s.compilation.catalogue := by
  cases h : s.compilation.result with
  | error failure => rw [compile_of_error h]; exact ⟨rfl, rfl⟩
  | ok bundle => rw [compile_of_ok h]; exact ⟨rfl, rfl⟩

end Session
end Curriculum
