/-!
# Decimal numerals

A numeral is made of digits, with a sign in front if the number is negative, and
the number can be told from it.
-/

namespace Curriculum

/-- The digits of a number are digits. -/
theorem isDigit_of_mem_repr {n : Nat} {c : Char} (h : c ∈ n.repr.toList) : c.isDigit = true := by
  rw [Nat.toList_repr] at h
  exact Nat.isDigit_of_mem_toDigits (by decide) (by decide) h

/-- A number can be told from its digits. -/
theorem toDigits_inj {m n : Nat} (h : Nat.toDigits 10 m = Nat.toDigits 10 n) : m = n := by
  rw [← Nat.ofDigitChars_ten_toDigits (n := m), h, Nat.ofDigitChars_ten_toDigits]

theorem repr_inj {m n : Nat} (h : m.repr.toList = n.repr.toList) : m = n := by
  rw [Nat.toList_repr, Nat.toList_repr] at h
  exact toDigits_inj h

theorem toString_inj {index index' : Int} (h : toString index = toString index') :
    index = index' := by
  rw [← String.toList_inj, Int.toString_eq_repr, Int.toString_eq_repr, Int.repr_eq_if,
    Int.repr_eq_if] at h
  -- What starts with a sign is not made of digits alone.
  have hsign : ∀ m n : Nat, m.repr.toList ≠ ("-" ++ n.repr).toList := by
    intro m n heq
    have hmem : '-' ∈ m.repr.toList := by
      rw [heq, String.toList_append]
      exact List.mem_append_left _ (by decide)
    exact absurd (isDigit_of_mem_repr hmem) (by decide)
  split at h <;> split at h
  · have hnat := repr_inj h
    omega
  · exact absurd h (hsign _ _)
  · exact absurd h.symm (hsign _ _)
  · rw [String.toList_append, String.toList_append] at h
    have hnat := repr_inj (List.append_cancel_left h)
    omega

end Curriculum
