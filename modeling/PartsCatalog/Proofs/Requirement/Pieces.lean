import Mathlib.Algebra.Order.Field.Rat
import Mathlib.Order.Bounds.Defs
import Mathlib.Tactic.Linarith
import Mathlib.Tactic.Positivity
import PartsCatalog.Proofs.Requirement.Report

/-!
# Pieces of a stock

How many pieces a stock suffices for is computed in decimals as the whole part of a quotient that
was rounded before.  So it is the largest count that the stock covers, or very nearly covers
(`decimal_count_is_rounded`): below a count of 36 bits the two are the same, above it the stock may
be short of the last piece by a small part of what this takes (`last_piece_is_not_covered`).
-/

namespace PartsCatalog

namespace Decimal

/-- The number that a decimal stands for. -/
def value (d : Decimal) : ℚ := d.coefficient / 10 ^ d.scale

/-- What is available is no less than so many times the unit. -/
def Covers (available unit : Decimal) (n : Nat) : Prop := n * unit.value ≤ available.value

/-- What is available is less than so many times the unit, but the quotient of the two is no further
below this number than half of its last place. -/
def AlmostCovers (available unit : Decimal) (n : Nat) : Prop :=
  available.value < n * unit.value ∧
    ∃ quotient, available.over? unit = some quotient ∧
      2 * 10 ^ quotient.scale * (n * unit.value - available.value) ≤ unit.value

variable {d available unit : Decimal} {n : Nat}

theorem value_pos_iff : 0 < d.value ↔ 0 < d.coefficient := by
  rw [value, lt_div_iff₀ (by positivity), zero_mul, Int.cast_pos]

theorem value_nonneg_iff : 0 ≤ d.value ↔ 0 ≤ d.coefficient := by
  rw [value, le_div_iff₀ (by positivity), zero_mul, Int.cast_nonneg_iff]

/-- A decimal over a common power of ten. -/
theorem value_mul_pow (nonneg : 0 ≤ d.coefficient) (places : Nat) :
    d.value * 10 ^ (places + d.scale) = (d.coefficient.natAbs * 10 ^ places : Nat) := by
  have power : (10 : ℚ) ^ d.scale ≠ 0 := by positivity
  have same : (d.coefficient.natAbs : ℚ) = d.coefficient := by
    rw [← Int.cast_natCast, Int.natAbs_of_nonneg nonneg]
  rw [value, pow_add, ← mul_assoc, mul_right_comm, div_mul_cancel₀ _ power, Nat.cast_mul, same]
  push_cast
  rfl

/-- Covering is comparing the two numbers over their common power of ten. -/
theorem covers_iff (positive : 0 < unit.coefficient) (nonneg : 0 ≤ available.coefficient) :
    available.Covers unit n ↔
      n * (unit.coefficient.natAbs * 10 ^ available.scale) ≤
        available.coefficient.natAbs * 10 ^ unit.scale := by
  have power : (0 : ℚ) < 10 ^ (available.scale + unit.scale) := by positivity
  have common := value_mul_pow nonneg unit.scale
  rw [Nat.add_comm] at common
  rw [Covers, ← mul_le_mul_iff_of_pos_right power, mul_assoc,
    value_mul_pow (Int.le_of_lt positive), common, ← Nat.cast_mul, Nat.cast_le]

/-- So is coming near. -/
theorem not_halfPlaceBelow_iff (positive : 0 < unit.coefficient)
    (nonneg : 0 ≤ available.coefficient) (short : ¬ available.Covers unit n) (places : Nat) :
    ¬ Figures.HalfPlaceBelow n (available.coefficient.natAbs * 10 ^ unit.scale)
        (unit.coefficient.natAbs * 10 ^ available.scale) places ↔
      2 * 10 ^ places * (n * unit.value - available.value) ≤ unit.value := by
  have power : (0 : ℚ) < 10 ^ (available.scale + unit.scale) := by positivity
  have inUnits := value_mul_pow (Int.le_of_lt positive) available.scale
  have inStock := value_mul_pow nonneg unit.scale
  rw [Nat.add_comm] at inStock
  rw [covers_iff positive nonneg, Nat.not_le] at short
  have lack : (n * unit.value - available.value) * 10 ^ (available.scale + unit.scale) =
      (n * (unit.coefficient.natAbs * 10 ^ available.scale) -
        available.coefficient.natAbs * 10 ^ unit.scale : Nat) := by
    rw [sub_mul, mul_assoc, inUnits, inStock, Nat.cast_sub (Nat.le_of_lt short), Nat.cast_mul n]
  rw [← mul_le_mul_iff_of_pos_right power (b := 2 * 10 ^ places * _), mul_assoc, lack, inUnits,
    Figures.HalfPlaceBelow, Nat.not_lt, ← Nat.cast_le (α := ℚ)]
  push_cast
  rw [mul_assoc, mul_comm (10 ^ places : ℚ)]

/-- Only many pieces are almost covered, and the last of them up to a small part. -/
theorem AlmostCovers.many (unitConverted : unit.Converted) (stockConverted : available.Converted)
    (positive : 0 < unit.coefficient) (nonneg : 0 ≤ available.coefficient)
    (within : n ≤ Figures.countMost) (almost : available.AlmostCovers unit n) :
    2 ^ 36 ≤ n ∧ 2 * 10 ^ 9 * (n * unit.value - available.value) ≤ unit.value := by
  obtain ⟨less, quotient, answer, near⟩ := almost
  have notCovered : ¬ available.Covers unit n := not_le.2 less
  have short := notCovered
  rw [covers_iff positive nonneg, Nat.not_le] at short
  obtain ⟨_, same, keeps⟩ := Figures.exists_quotient_of_short positive nonneg within short
  obtain rfl := Option.some.inj (answer.symm.trans same)
  constructor
  · by_contra few
    refine (not_halfPlaceBelow_iff positive nonneg notCovered quotient.scale).2 near ?_
    exact .of_converted unitConverted stockConverted short keeps (Nat.not_le.1 few)
  · have places : 9 ≤ quotient.scale := by
      refine keeps.le (by decide) (Nat.lt_of_le_of_lt (Nat.mul_le_mul_right _ within) ?_)
      decide
    have power : (10 : ℚ) ^ 9 ≤ 10 ^ quotient.scale := pow_le_pow_right₀ (by norm_num) places
    have lack : 0 ≤ n * unit.value - available.value := sub_nonneg.2 (le_of_lt less)
    calc 2 * 10 ^ 9 * (n * unit.value - available.value)
        ≤ 2 * 10 ^ quotient.scale * (n * unit.value - available.value) :=
          mul_le_mul_of_nonneg_right (mul_le_mul_of_nonneg_left power (by norm_num)) lack
      _ ≤ unit.value := near

end Decimal

namespace Figures

variable {unit available : Decimal} {n : Nat}

theorem le_wholePieces_iff_covers (positive : 0 < unit.coefficient)
    (nonneg : 0 ≤ available.coefficient) (within : n ≤ countMost) :
    n ≤ wholePieces available unit ↔
      available.Covers unit n ∨ available.AlmostCovers unit n := by
  rw [le_wholePieces_iff positive nonneg within]
  by_cases covered : available.Covers unit n
  · refine iff_of_true (fun quotient _ => ?_) (.inl covered)
    rw [Decimal.covers_iff positive nonneg] at covered
    rw [HalfPlaceBelow, Nat.sub_eq_zero_of_le covered, Nat.zero_mul]
    exact Nat.not_lt_zero _
  · rw [or_iff_right covered, Decimal.AlmostCovers, and_iff_right (not_le.1 covered)]
    have short := covered
    rw [Decimal.covers_iff positive nonneg, Nat.not_le] at short
    obtain ⟨quotient, answer, -⟩ := exists_quotient_of_short positive nonneg within short
    simp only [answer, Option.some.injEq, forall_eq', exists_eq_left',
      Decimal.not_halfPlaceBelow_iff positive nonneg covered]

/-- **Decimal figures count the pieces up to the rounding of one quotient.**  For a quantity above
zero and a stock that is not below it, the count is the largest one of 64 bits that the stock covers
or almost covers.  All counts below it are covered, and it is covered itself if it has no more than
36 bits; so it is then the largest count that the stock covers.  What almost covers a count is short
of the last piece by a `5 · 10⁻¹⁰` of it at most. -/
theorem decimal_count_is_rounded (perUnit stock : Binary64) (count : Nat) (figures : Figures)
    (unit available : Decimal) (computed : ofDecimals? perUnit count stock = some figures)
    (unitIs : Decimal.ofBinary64? perUnit = some unit)
    (stockIs : Decimal.ofBinary64? stock = some available) (positive : 0 < unit.value)
    (nonneg : 0 ≤ available.value) :
    IsGreatest {n | n ≤ countMost ∧ (available.Covers unit n ∨ available.AlmostCovers unit n)}
      figures.canProduce ∧
    (∀ n < figures.canProduce, available.Covers unit n) ∧
    (figures.canProduce < 2 ^ 36 →
      IsGreatest {n | n ≤ countMost ∧ available.Covers unit n} figures.canProduce) ∧
    ∀ n ≤ countMost, available.AlmostCovers unit n →
      2 * 10 ^ 9 * (n * unit.value - available.value) ≤ unit.value := by
  have unitPos := Decimal.value_pos_iff.1 positive
  have stockNonneg := Decimal.value_nonneg_iff.1 nonneg
  have many : ∀ n ≤ countMost, available.AlmostCovers unit n →
      2 ^ 36 ≤ n ∧ 2 * 10 ^ 9 * (n * unit.value - available.value) ≤ unit.value :=
    fun n within almost => almost.many (Decimal.converted_ofBinary64? unitIs)
      (Decimal.converted_ofBinary64? stockIs) unitPos stockNonneg within
  have isCount : figures.canProduce = wholePieces available unit := by
    obtain ⟨unit', available', -, -, unitIs', stockIs', -, -, -, canProduce⟩ :=
      ofDecimals?_eq_some computed
    obtain rfl := Option.some.inj (unitIs.symm.trans unitIs')
    obtain rfl := Option.some.inj (stockIs.symm.trans stockIs')
    exact canProduce.trans (if_pos (decide_eq_true unitPos))
  have within : figures.canProduce ≤ countMost := isCount ▸ wholePieces_le
  have here := (le_wholePieces_iff_covers unitPos stockNonneg within).1 (Nat.le_of_eq isCount)
  have most : ∀ n ≤ countMost, available.Covers unit n ∨ available.AlmostCovers unit n →
      n ≤ figures.canProduce := fun n within reached =>
    isCount ▸ (le_wholePieces_iff_covers unitPos stockNonneg within).2 reached
  refine ⟨⟨⟨within, here⟩, fun n reached => most n reached.1 reached.2⟩, fun n fewer => ?_,
    fun few => ⟨⟨within, ?_⟩, fun n covered => most n covered.1 (.inl covered.2)⟩,
    fun n within almost => (many n within almost).2⟩
  · have next : ((n : ℚ) + 1) * unit.value ≤ figures.canProduce * unit.value :=
      mul_le_mul_of_nonneg_right (by exact_mod_cast fewer) (le_of_lt positive)
    rw [Decimal.Covers]
    rcases here with covered | almost
    · rw [Decimal.Covers] at covered
      linarith
    · have small := (many _ within almost).2
      linarith [almost.1]
  · exact here.resolve_right fun almost => absurd (many _ within almost).1 (Nat.not_le.2 few)

/-- Two and a half go into ten four times. -/
theorem ten_covers_four_pieces : ∃ figures unit available,
    ofDecimals? (.ofBits 0x4004000000000000) 4 (.ofBits 0x4024000000000000) = some figures ∧
      Decimal.ofBinary64? (.ofBits 0x4004000000000000) = some unit ∧
      Decimal.ofBinary64? (.ofBits 0x4024000000000000) = some available ∧
      0 < unit.value ∧ 0 ≤ available.value ∧ figures.canProduce < 2 ^ 36 ∧
      IsGreatest {n | n ≤ countMost ∧ available.Covers unit n} figures.canProduce := by
  obtain ⟨figures, computed, four⟩ : ∃ figures,
      ofDecimals? (.ofBits 0x4004000000000000) 4 (.ofBits 0x4024000000000000) = some figures ∧
        figures.canProduce = 4 :=
    Option.map_eq_some_iff.1 (by decide +kernel)
  obtain ⟨unit, unitIs, unitPos⟩ : ∃ unit,
      Decimal.ofBinary64? (.ofBits 0x4004000000000000) = some unit ∧ unit.coefficient = 25 :=
    Option.map_eq_some_iff.1 (by decide +kernel)
  obtain ⟨available, stockIs, stockPos⟩ : ∃ available,
      Decimal.ofBinary64? (.ofBits 0x4024000000000000) = some available ∧
        available.coefficient = 10 :=
    Option.map_eq_some_iff.1 (by decide +kernel)
  have positive : 0 < unit.value := Decimal.value_pos_iff.2 (by omega)
  have nonneg : 0 ≤ available.value := Decimal.value_nonneg_iff.2 (by omega)
  have few : figures.canProduce < 2 ^ 36 := by omega
  obtain ⟨-, -, exact, -⟩ := decimal_count_is_rounded _ _ _ figures unit available computed unitIs
    stockIs positive nonneg
  exact ⟨figures, unit, available, computed, unitIs, stockIs, positive, nonneg, few, exact few⟩

/-- One unit is lacking of a stock for more than `8 · 10¹⁸` pieces, and the quotient is rounded up to
their number. -/
theorem last_piece_is_not_covered : ∃ figures unit available,
    ofDecimals? (.ofBits 0x41e0cd027be00000) 1 (.ofBits 0x45cee80000000000) = some figures ∧
      Decimal.ofBinary64? (.ofBits 0x41e0cd027be00000) = some unit ∧
      Decimal.ofBinary64? (.ofBits 0x45cee80000000000) = some available ∧
      0 < unit.value ∧ ¬ available.Covers unit figures.canProduce := by
  obtain ⟨figures, computed, number⟩ : ∃ figures,
      ofDecimals? (.ofBits 0x41e0cd027be00000) 1 (.ofBits 0x45cee80000000000) = some figures ∧
        figures.canProduce = 8483510222039377951 :=
    Option.map_eq_some_iff.1 (by decide +kernel)
  obtain ⟨unit, unitIs, unitParts⟩ : ∃ unit,
      Decimal.ofBinary64? (.ofBits 0x41e0cd027be00000) = some unit ∧
        (unit.coefficient, unit.scale) = (2254967775, 0) :=
    Option.map_eq_some_iff.1 (by decide +kernel)
  obtain ⟨available, stockIs, stockParts⟩ : ∃ available,
      Decimal.ofBinary64? (.ofBits 0x45cee80000000000) = some available ∧
        (available.coefficient, available.scale) = (19130042169581892060550529024, 0) :=
    Option.map_eq_some_iff.1 (by decide +kernel)
  rw [Prod.mk.injEq] at unitParts stockParts
  obtain ⟨unitDigits, unitScale⟩ := unitParts
  obtain ⟨stockDigits, stockScale⟩ := stockParts
  have positive : 0 < unit.coefficient := by omega
  refine ⟨figures, unit, available, computed, unitIs, stockIs,
    Decimal.value_pos_iff.2 positive, ?_⟩
  rw [Decimal.covers_iff positive (by omega), number, unitDigits, unitScale, stockDigits,
    stockScale]
  decide

end Figures

end PartsCatalog
