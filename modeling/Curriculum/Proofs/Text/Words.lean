import Mathlib.Data.List.Basic
import Curriculum.Text.Blank
import Curriculum.Text.Identifier
import Curriculum.Text.Word

/-!
# Word characters and other classes

Word characters are given by a table. Two other classes are compared with it
here, one range after the other: what can stand in an identifier is a word
character, and a blank is none.
-/

namespace Curriculum.Text

/-- What can stand in an identifier is a word character. -/
theorem isWord_of_isIdentifierPart {c : Char} (h : isIdentifierPart c = true) :
    isWord c = true := by
  have hall : ∀ n < 128, isIdentifierPart (Char.ofNat n) = true → wordRanges.contains n = true := by
    decide +kernel
  have hascii : c.toNat < 128 := by
    unfold isIdentifierPart Char.isAlphanum Char.isAlpha Char.isUpper Char.isLower Char.isDigit at h
    simp only [Bool.or_eq_true, Bool.and_eq_true, decide_eq_true_eq, beq_iff_eq,
      UInt32.le_iff_toNat_le] at h
    rcases h with ((⟨-, h⟩ | ⟨-, h⟩) | ⟨-, h⟩) | rfl
    · exact Nat.lt_of_le_of_lt h (by decide)
    · exact Nat.lt_of_le_of_lt h (by decide)
    · exact Nat.lt_of_le_of_lt h (by decide)
    · decide
  have hword := hall c.toNat hascii
  rw [Char.ofNat_toNat] at hword
  exact hword h

/-- The code points of blanks, separators first. -/
def blankRanges : Ranges := [
    (0x1C, 0x1F), (0x09, 0x0D), (0x20, 0x20), (0x85, 0x85), (0xA0, 0xA0), (0x1680, 0x1680),
    (0x2000, 0x200A), (0x2028, 0x2029), (0x202F, 0x202F), (0x205F, 0x205F), (0x3000, 0x3000)]

theorem exists_blankRange {c : Char} (h : isBlank c = true) :
    ∃ r ∈ blankRanges, r.1 ≤ c.toNat ∧ c.toNat ≤ r.2 := by
  rw [isBlank, Bool.or_eq_true] at h
  rcases h with hspace | hseparator
  · obtain ⟨r, hr, hlo, hhi⟩ := Ranges.exists_of_contains hspace
    exact ⟨r, List.mem_cons_of_mem _ hr, hlo, hhi⟩
  · rw [Bool.and_eq_true, decide_eq_true_eq, decide_eq_true_eq] at hseparator
    exact ⟨(0x1C, 0x1F), List.mem_cons_self, hseparator⟩

/-- No blank is a word character. -/
theorem isWord_eq_false_of_isBlank {c : Char} (h : isBlank c = true) : isWord c = false := by
  obtain ⟨r, hr, hlo, hhi⟩ := exists_blankRange h
  have hall : ∀ r ∈ blankRanges, ∀ k ≤ r.2 - r.1, wordRanges.contains (r.1 + k) = false := by
    decide +kernel
  have hk := hall r hr (c.toNat - r.1) (by omega)
  rwa [Nat.add_sub_cancel' hlo] at hk

end Curriculum.Text
