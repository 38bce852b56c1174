import Mathlib.Algebra.Group.Nat.Defs
import PartsCatalog.Proofs.Text.Blank
import PartsCatalog.Text.Numeral

/-!
# Digits that are written

The digits of a number denote it, also when they are filled up with zeros and stand behind others
(`ofDigitChars_paddedDigits`).  What is written with digits, a sign and a point alone (`Plain`) has
no blank and no comma in it, so that no reader changes it before looking at it.
-/

namespace PartsCatalog.Text

variable {c : Char} {width n : Nat}

theorem isDigit_of_mem_toDigits (member : c ∈ Nat.toDigits 10 n) : c.isDigit :=
  Nat.isDigit_of_mem_toDigits (by decide) (by decide) member

theorem isDigit_of_mem_paddedDigits (member : c ∈ paddedDigits width n) : c.isDigit := by
  rcases List.mem_append.1 member with filler | digit
  · obtain ⟨-, rfl⟩ := List.mem_replicate.1 filler
    decide
  · exact isDigit_of_mem_toDigits digit

theorem length_paddedDigits (pos : 0 < width) (fits : n < 10 ^ width) :
    (paddedDigits width n).length = width := by
  have short : (Nat.toDigits 10 n).length ≤ width :=
    (Nat.length_toDigits_le_iff (by decide) pos).2 fits
  rw [paddedDigits, List.length_append, List.length_replicate]
  omega

/-- Digits behind those of a number make it so many times ten as large, and are added to it. -/
theorem ofDigitChars_paddedDigits (width n before : Nat) :
    Nat.ofDigitChars 10 (paddedDigits width n) before =
      10 ^ (paddedDigits width n).length * before + n := by
  have alone : Nat.ofDigitChars 10 (paddedDigits width n) 0 = n := by
    rw [paddedDigits, Nat.ofDigitChars_append, Nat.ofDigitChars_replicate_zero, Nat.mul_zero,
      Nat.ofDigitChars_ten_toDigits]
  rw [Nat.ofDigitChars_eq_ofDigitChars_zero, alone]

/-- The characters of a number that is written with a point alone. -/
def Plain (c : Char) : Prop := c.isDigit ∨ c = '-' ∨ c = '.'

instance (c : Char) : Decidable (Plain c) := inferInstanceAs (Decidable (_ ∨ _))

namespace Plain

theorem not_isBlank (plain : Plain c) : isBlank c = false := by
  rcases plain with digit | rfl | rfl
  · obtain ⟨low, high⟩ : 48 ≤ c.toNat ∧ c.toNat ≤ 57 := Char.isDigit_iff_toNat.1 digit
    have apart : ∀ range ∈ blankRanges, range.2 < 48 ∨ 57 < range.1 := by decide
    refine Bool.eq_false_iff.2 fun blank => ?_
    obtain ⟨range, member, inside⟩ := List.any_eq_true.1 blank
    rw [Bool.and_eq_true, decide_eq_true_iff, decide_eq_true_iff] at inside
    have := apart range member
    omega
  · decide
  · decide

theorem ne_comma (plain : Plain c) : c ≠ ',' := by
  rintro rfl
  revert plain
  decide

end Plain

/-- What is written in plain characters has no blanks around it. -/
theorem trimmed_of_plain {s : String} (plain : ∀ c ∈ s.toList, Plain c) : Trimmed s :=
  ⟨fun c head => (plain c (List.mem_of_mem_head? head)).not_isBlank,
    fun c last => (plain c (List.mem_of_getLast? last)).not_isBlank⟩

end PartsCatalog.Text
