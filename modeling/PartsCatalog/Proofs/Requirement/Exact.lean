import PartsCatalog.Proofs.Decimal.Convert
import PartsCatalog.Proofs.Requirement.Rounded

/-!
# Figures in decimals

The total of decimal figures is exact, so what the stock lacks is.  Only the quotient of stock and
quantity is rounded, and the question is whether a quotient just below a count can be rounded up to
it.  For counts of 36 bits it cannot (`HalfPlaceBelow.of_converted`): quantities that are not whole
have few digits, so with the places that a quotient keeps they leave more than half a place; and
whole ones of many digits end in binary zeros, so that they are further apart.
-/

namespace PartsCatalog

namespace Figures

/-! ## Counts and quotients -/

section Quotients

variable {unit stock count places : Nat}

/-- What there is to know about the places that a quotient of a count is rounded to: all there are,
or so many that one more would not fit. -/
def KeepsPlaces (count places : Nat) : Prop := places = 28 ∨ 2 ^ 96 ≤ count * 10 ^ (places + 1)

theorem KeepsPlaces.le {few : Nat} (keeps : KeepsPlaces count places) (within : few ≤ 28)
    (fits : count * 10 ^ few < 2 ^ 96) : few ≤ places := by
  rcases keeps with rfl | tooLarge
  · exact within
  · by_contra fewer
    have power : 10 ^ (places + 1) ≤ 10 ^ few := Nat.pow_le_pow_right (by decide) (by omega)
    have bound := Nat.mul_le_mul_left count power
    omega

/-- Below a count of 36 bits a quotient keeps 18 places at least. -/
theorem KeepsPlaces.le_pow (keeps : KeepsPlaces count places) (small : count < 2 ^ 36) :
    10 ^ 18 ≤ 10 ^ places :=
  Nat.pow_le_pow_right (by decide) (keeps.le (by decide) (by omega))

/-- `stock / unit` is below `count` by more than half a place. -/
def HalfPlaceBelow (count stock unit places : Nat) : Prop :=
  unit < 2 * ((count * unit - stock) * 10 ^ places)

theorem HalfPlaceBelow.of_small (small : unit < 2 ^ 60) (short : stock < count * unit)
    (fine : 10 ^ 18 ≤ 10 ^ places) : HalfPlaceBelow count stock unit places := by
  have lack : 1 ≤ count * unit - stock := by omega
  have bound := Nat.mul_le_mul lack fine
  unfold HalfPlaceBelow
  omega

theorem HalfPlaceBelow.of_half (half : unit ≤ 2 * (count * unit - stock))
    (short : stock < count * unit) (fine : 10 ^ 18 ≤ 10 ^ places) :
    HalfPlaceBelow count stock unit places := by
  have bound := Nat.mul_le_mul_left (count * unit - stock) fine
  unfold HalfPlaceBelow
  omega

theorem HalfPlaceBelow.of_far (far : 2 * stock ≤ unit) (short : stock < count * unit)
    (fine : 10 ^ 18 ≤ 10 ^ places) : HalfPlaceBelow count stock unit places := by
  have pos : 0 < count := Nat.pos_of_mul_pos_right (Nat.zero_lt_of_lt short)
  have once : unit ≤ count * unit := Nat.le_mul_of_pos_left unit pos
  exact .of_half (by omega) short fine

/-- What is lacking needs to be the larger the further the total is past the range of decimals. -/
theorem HalfPlaceBelow.of_lack (room : Nat) (lack : 5 * room < count * unit - stock)
    (total : count * unit ≤ room * 2 ^ 96) (fits : unit < 2 ^ 96)
    (keeps : KeepsPlaces count places) : HalfPlaceBelow count stock unit places := by
  have pos : 0 < count * unit := by omega
  have countPos : 0 < count := Nat.pos_of_mul_pos_right pos
  have some : 0 < room := by
    by_contra none
    rw [Nat.eq_zero_of_not_pos none, Nat.zero_mul] at total
    omega
  have bound : (5 * room + 1) * 10 ^ places ≤ (count * unit - stock) * 10 ^ places :=
    Nat.mul_le_mul_right _ lack
  unfold HalfPlaceBelow
  rcases keeps with rfl | tooLarge
  · omega
  · have below : unit ≤ room * 10 ^ (places + 1) := by
      refine Nat.le_of_mul_le_mul_left ?_ countPos
      calc count * unit ≤ room * 2 ^ 96 := total
        _ ≤ room * (count * 10 ^ (places + 1)) := Nat.mul_le_mul_left room tooLarge
        _ = count * (room * 10 ^ (places + 1)) := by ring
    have power : 0 < 10 ^ places := Nat.pow_pos (by decide)
    have tens : room * 10 ^ (places + 1) + 2 * 10 ^ places =
        2 * ((5 * room + 1) * 10 ^ places) := by ring
    omega

theorem HalfPlaceBelow.scale {factor : Nat} (pos : 0 < factor)
    (below : HalfPlaceBelow count stock unit places) :
    HalfPlaceBelow count (stock * factor) (unit * factor) places := by
  unfold HalfPlaceBelow at *
  calc unit * factor < 2 * ((count * unit - stock) * 10 ^ places) * factor :=
        Nat.mul_lt_mul_of_pos_right below pos
    _ = 2 * ((count * unit - stock) * factor * 10 ^ places) := by ring
    _ = 2 * ((count * (unit * factor) - stock * factor) * 10 ^ places) := by
      rw [Nat.sub_mul, Nat.mul_assoc count]

/-- Large whole numbers are multiples of sixteen, and so is what a stock lacks of them, unless one of
the two is just below the end of the range. -/
theorem HalfPlaceBelow.of_whole
    (unitWhole : unit < 2 ^ 57 ∨ 16 ∣ unit ∨ unit = 2 ^ 96 - 6)
    (stockWhole : stock < 2 ^ 57 ∨ 16 ∣ stock ∨ stock = 2 ^ 96 - 6)
    (unitFits : unit < 2 ^ 96) (stockFits : stock < 2 ^ 96) (short : stock < count * unit)
    (keeps : KeepsPlaces count places) (small : count < 2 ^ 36) :
    HalfPlaceBelow count stock unit places := by
  have fine := keeps.le_pow small
  rcases Nat.lt_or_ge unit (2 ^ 60) with unitSmall | unitLarge
  · exact .of_small unitSmall short fine
  rcases Nat.lt_or_ge stock (2 ^ 57) with stockSmall | stockLarge
  · exact .of_far (by omega) short fine
  rcases Nat.lt_or_ge (count * unit - stock) unit with near | far
  swap
  · exact .of_half (by omega) short fine
  have twice : count * unit ≤ 2 * 2 ^ 96 := by omega
  have stockWhole := stockWhole.resolve_left (by omega)
  rcases unitWhole.resolve_left (by omega) with unitEven | rfl
  · have totalEven : 16 ∣ count * unit := Nat.dvd_mul_left_of_dvd unitEven count
    rcases stockWhole with stockEven | rfl
    · exact .of_lack 2 (by omega) twice unitFits keeps
    · -- six are lacking where the total is the end of the range itself
      rcases Nat.lt_or_ge (2 ^ 96) (count * unit) with past | upTo
      · exact .of_lack 2 (by omega) twice unitFits keeps
      · exact .of_lack 1 (by omega) (by omega) unitFits keeps
  · -- no more than one piece can be made of that much
    obtain rfl : count = 1 := by omega
    exact .of_lack 1 (by omega) (by omega) unitFits keeps

end Quotients

/-! ## Converted numbers -/

/-- The quotient of a stock by a quantity is no closer to a count above it, whatever numbers the
decimals were made of. -/
theorem HalfPlaceBelow.of_converted {unit stock : Decimal} {count places : Nat}
    (unitConverted : unit.Converted) (stockConverted : stock.Converted)
    (short : stock.coefficient.natAbs * 10 ^ unit.scale <
      count * (unit.coefficient.natAbs * 10 ^ stock.scale))
    (keeps : KeepsPlaces count places) (small : count < 2 ^ 36) :
    HalfPlaceBelow count (stock.coefficient.natAbs * 10 ^ unit.scale)
      (unit.coefficient.natAbs * 10 ^ stock.scale) places := by
  have fine := keeps.le_pow small
  have power (n : Nat) : 0 < 10 ^ n := Nat.pow_pos (by decide)
  -- the factor of ten that both have is left off
  rcases Nat.lt_or_ge unit.scale stock.scale with more | fewer
  · obtain ⟨extra, scale⟩ := Nat.exists_eq_add_of_lt more
    have few := stockConverted.places (by omega)
    have common : unit.coefficient.natAbs * 10 ^ stock.scale =
        unit.coefficient.natAbs * 10 ^ (extra + 1) * 10 ^ unit.scale := by rw [scale]; ring
    rw [common, ← Nat.mul_assoc] at short
    rw [common]
    have short := Nat.lt_of_mul_lt_mul_right short
    refine HalfPlaceBelow.scale (power _) ?_
    rcases Nat.lt_or_ge (unit.coefficient.natAbs * 10 ^ (extra + 1)) (2 ^ 60) with near | far
    · exact .of_small near short fine
    · exact .of_far (by omega) short fine
  · obtain ⟨extra, scale⟩ := Nat.exists_eq_add_of_le fewer
    have common : stock.coefficient.natAbs * 10 ^ unit.scale =
        stock.coefficient.natAbs * 10 ^ extra * 10 ^ stock.scale := by rw [scale]; ring
    rw [common, ← Nat.mul_assoc] at short
    rw [common]
    have short := Nat.lt_of_mul_lt_mul_right short
    refine HalfPlaceBelow.scale (power _) ?_
    by_cases whole : unit.scale = 0
    · have stockScale : stock.scale = 0 := by omega
      obtain rfl : extra = 0 := by omega
      rw [Nat.pow_zero, Nat.mul_one] at short ⊢
      exact .of_whole (unitConverted.whole whole) (stockConverted.whole stockScale)
        (Decimal.coefficientBound_eq ▸ unit.coefficient_lt)
        (Decimal.coefficientBound_eq ▸ stock.coefficient_lt) short keeps small
    · have few := unitConverted.places whole
      exact .of_small (by omega) short fine

/-! ## Agreement -/

variable {perUnit stock : Binary64} {count : Nat} {figures : Figures}

/-- How many times a decimal goes into another, as far as counts go. -/
def wholePieces (available unit : Decimal) : Nat :=
  match available.over? unit with
  | some quotient => min countMost quotient.floor.toNat
  | none => countMost

theorem wholePieces_le {available unit : Decimal} : wholePieces available unit ≤ countMost := by
  rw [wholePieces]
  split
  · exact Nat.min_le_left _ _
  · exact Nat.le_refl _

theorem ofDecimals?_eq_some (computed : ofDecimals? perUnit count stock = some figures) :
    ∃ unit available total difference,
      Decimal.ofBinary64? perUnit = some unit ∧ Decimal.ofBinary64? stock = some available ∧
        unit.times? count = some total ∧ total.minus? available = some difference ∧
        figures.additional = difference.clampBelow.toBinary64 ∧
        figures.canProduce = if unit.isPositive then wholePieces available unit else 0 := by
  unfold ofDecimals? at computed
  simp only [Option.bind_eq_bind, Option.bind_eq_some_iff] at computed
  obtain ⟨unit, unitIs, available, stockIs, total, totalIs, difference, differenceIs, same⟩ :=
    computed
  obtain rfl := Option.some.inj same
  exact ⟨unit, available, total, difference, unitIs, stockIs, totalIs, differenceIs, rfl, rfl⟩

/-- A stock is no less than nothing as a decimal either. -/
theorem coefficient_stock {available : Decimal} (valid : Stock.isValidAmount stock)
    (converted : Decimal.ofBinary64? stock = some available) : 0 ≤ available.coefficient := by
  obtain ⟨negative, rank, rfl, sign, -⟩ := exists_of_isValidAmount valid
  obtain ⟨digits, coefficient, none⟩ := Decimal.exists_of_ofBinary64? converted
  rw [coefficient]
  cases negative with
  | false => exact Int.natCast_nonneg digits
  | true =>
    have zero : rank.val = 0 := Nat.eq_zero_of_not_pos fun pos =>
      absurd (sign rfl) (Nat.ne_of_gt (Binary64.units_pos_iff.2 pos))
    rw [none zero]
    decide

/-- What is above zero is not below zero as a decimal. -/
theorem coefficient_nonneg {unit : Decimal} (above : Binary64.zero.less perUnit)
    (converted : Decimal.ofBinary64? perUnit = some unit) : 0 ≤ unit.coefficient := by
  cases Binary64.zero_less_iff.1 above with
  | infinite => cases converted
  | finite =>
    obtain ⟨digits, coefficient, -⟩ := Decimal.exists_of_ofBinary64? converted
    rw [coefficient]
    exact Int.natCast_nonneg digits

/-- What is not above zero is not above zero as a decimal. -/
theorem coefficient_nonpos {unit : Decimal} (none : ¬ Binary64.zero.less perUnit)
    (converted : Decimal.ofBinary64? perUnit = some unit) : unit.coefficient ≤ 0 := by
  cases perUnit with
  | nan => cases converted
  | infinite => cases converted
  | finite negative rank =>
    obtain ⟨digits, coefficient, ofZero⟩ := Decimal.exists_of_ofBinary64? converted
    rw [coefficient]
    cases negative with
    | true => exact Int.neg_nonpos_of_nonneg (Int.natCast_nonneg digits)
    | false =>
      have zero : rank.val = 0 := Nat.eq_zero_of_not_pos fun pos =>
        none (Binary64.zero_less_iff.2 (.finite (Binary64.units_pos_iff.2 pos)))
      rw [ofZero zero]
      exact Int.le_refl 0

/-- What the places of a rounded quotient are where the exact one is no larger than a count. -/
theorem keepsPlaces_scale {num den : Nat} {quotient : Decimal} (pos : 0 < den)
    (answer : Decimal.ofQuotient? false num den Decimal.maxScale = some quotient)
    (below : num ≤ count * den) : KeepsPlaces count quotient.scale := by
  obtain ⟨-, -, full⟩ := Decimal.ofQuotient?_eq_some (Nat.le_refl _) answer
  refine full.imp id fun tooLarge => ?_
  rw [Decimal.coefficientBound_eq] at tooLarge
  refine Nat.le_trans tooLarge (roundQuotient_le pos ?_)
  calc num * 10 ^ (quotient.scale + 1) ≤ count * den * 10 ^ (quotient.scale + 1) :=
        Nat.mul_le_mul_right _ below
    _ = count * 10 ^ (quotient.scale + 1) * den := by ring

/-- What is short of a count has a quotient, and that keeps places. -/
theorem exists_quotient_of_short {unit available : Decimal} (positive : 0 < unit.coefficient)
    (nonneg : 0 ≤ available.coefficient) (within : count ≤ countMost)
    (short : available.coefficient.natAbs * 10 ^ unit.scale <
      count * (unit.coefficient.natAbs * 10 ^ available.scale)) :
    ∃ quotient, available.over? unit = some quotient ∧ KeepsPlaces count quotient.scale := by
  have den : 0 < unit.coefficient.natAbs * 10 ^ available.scale :=
    Nat.mul_pos (by omega) (Nat.pow_pos (by decide))
  have whole : roundQuotient .toEven (available.coefficient.natAbs * 10 ^ unit.scale)
      (unit.coefficient.natAbs * 10 ^ available.scale) ≤ count :=
    roundQuotient_le den (Nat.le_of_lt short)
  obtain ⟨quotient, answer⟩ : ∃ quotient, Decimal.ofQuotient? false
      (available.coefficient.natAbs * 10 ^ unit.scale)
      (unit.coefficient.natAbs * 10 ^ available.scale) Decimal.maxScale = some quotient := by
    refine Decimal.exists_ofQuotient?_eq (Nat.lt_of_le_of_lt (Nat.le_trans whole within) ?_)
    rw [Decimal.coefficientBound_eq]
    decide
  exact ⟨quotient, (Decimal.over?_of_pos nonneg positive).trans answer,
    keepsPlaces_scale den answer (Nat.le_of_lt short)⟩

/-- A stock suffices for so many pieces exactly where their quotient is rounded to no less. -/
theorem le_wholePieces_iff {unit available : Decimal} (positive : 0 < unit.coefficient)
    (nonneg : 0 ≤ available.coefficient) (within : count ≤ countMost) :
    count ≤ wholePieces available unit ↔
      ∀ quotient, available.over? unit = some quotient →
        ¬ HalfPlaceBelow count (available.coefficient.natAbs * 10 ^ unit.scale)
          (unit.coefficient.natAbs * 10 ^ available.scale) quotient.scale := by
  have den : 0 < unit.coefficient.natAbs * 10 ^ available.scale :=
    Nat.mul_pos (by omega) (Nat.pow_pos (by decide))
  cases answer : available.over? unit with
  | none =>
    rw [wholePieces, answer]
    exact iff_of_true within nofun
  | some quotient =>
    have rounded := answer
    rw [Decimal.over?_of_pos nonneg positive] at rounded
    rw [wholePieces, answer, Nat.le_min, and_iff_right within]
    simp only [Option.some.injEq, forall_eq', HalfPlaceBelow, Nat.not_lt]
    rcases Nat.lt_or_ge (available.coefficient.natAbs * 10 ^ unit.scale)
      (count * (unit.coefficient.natAbs * 10 ^ available.scale)) with short | covered
    · obtain ⟨_, same, keeps⟩ := exists_quotient_of_short positive nonneg within short
      obtain rfl := Option.some.inj (answer.symm.trans same)
      have places : 9 ≤ quotient.scale := by
        refine keeps.le (by decide) (Nat.lt_of_le_of_lt (Nat.mul_le_mul_right _ within) ?_)
        decide
      rw [Decimal.le_floor_iff den (Nat.le_refl _) rounded (by omega), Nat.sub_mul]
      have scaled := Nat.mul_le_mul_right (10 ^ quotient.scale) (Nat.le_of_lt short)
      omega
    · refine iff_of_true (Decimal.le_floor den (Nat.le_refl _) rounded covered) ?_
      rw [Nat.sub_eq_zero_of_le covered, Nat.zero_mul]
      exact Nat.zero_le _

/-- A stock suffices for so few pieces exactly where it covers their total. -/
theorem wholePieces_lt_iff {unit available : Decimal} (unitConverted : unit.Converted)
    (stockConverted : available.Converted) (positive : 0 < unit.coefficient)
    (nonneg : 0 ≤ available.coefficient) (small : count < 2 ^ 36) :
    wholePieces available unit < count ↔
      available.coefficient.natAbs * 10 ^ unit.scale <
        count * (unit.coefficient.natAbs * 10 ^ available.scale) := by
  have within : count ≤ countMost := Nat.le_trans (Nat.le_of_lt small) (by decide)
  rw [← Nat.not_le, le_wholePieces_iff positive nonneg within]
  constructor
  · intro fewer
    by_contra covered
    refine fewer fun quotient _ below => ?_
    rw [HalfPlaceBelow, Nat.sub_eq_zero_of_le (Nat.not_lt.1 covered), Nat.zero_mul] at below
    exact Nat.not_lt_zero _ below
  · intro short rounded
    obtain ⟨quotient, answer, keeps⟩ := exists_quotient_of_short positive nonneg within short
    exact rounded quotient answer
      (.of_converted unitConverted stockConverted short keeps small)

/-- A total that has an answer is exact. -/
theorem total_exact {unit total : Decimal} (unitConverted : unit.Converted) (small : count < 2 ^ 32)
    (answer : unit.times? count = some total) :
    total.coefficient = unit.coefficient * count ∧ total.scale = unit.scale := by
  refine Decimal.times?_exact answer ?_
  by_cases whole : unit.scale = 0
  · exact .inl whole
  · have product := Nat.mul_lt_mul'' (unitConverted.places whole) small
    rw [Decimal.coefficientBound_eq]
    exact .inr (by omega)

/-- Decimal figures agree unless the quantity vanishes as a decimal. -/
theorem agree_ofDecimals? (computed : ofDecimals? perUnit count stock = some figures)
    {unit : Decimal} (converted : Decimal.ofBinary64? perUnit = some unit)
    (positive : 0 < unit.coefficient) (valid : Stock.isValidAmount stock)
    (small : count < 2 ^ 32) : figures.Agree count := by
  obtain ⟨_, available, total, difference, sameUnit, stockIs, totalIs, differenceIs, additional,
    canProduce⟩ := ofDecimals?_eq_some computed
  obtain rfl := Option.some.inj (converted.symm.trans sameUnit)
  have unitConverted := Decimal.converted_ofBinary64? converted
  have nonneg := coefficient_stock valid stockIs
  obtain ⟨coefficient, scale⟩ := total_exact unitConverted small totalIs
  have isPositive : unit.isPositive := decide_eq_true positive
  rw [Agree, additional, Decimal.zero_less_toBinary64_clampBelow,
    Decimal.isPositive_minus? differenceIs, canProduce, if_pos isPositive,
    wholePieces_lt_iff unitConverted (Decimal.converted_ofBinary64? stockIs) positive nonneg
      (Nat.lt_trans small (by decide)), coefficient, scale]
  -- both say it of the exact total, once in integers and once in natural numbers
  obtain ⟨unitDigits, unitIs⟩ := Int.eq_ofNat_of_zero_le (Int.le_of_lt positive)
  obtain ⟨stockDigits, stockIs⟩ := Int.eq_ofNat_of_zero_le nonneg
  rw [unitIs, stockIs, Int.natAbs_natCast, Int.natAbs_natCast, ← Int.ofNat_lt]
  push_cast
  rw [Int.mul_comm (unitDigits : Int), Int.mul_assoc]

end Figures

end PartsCatalog
