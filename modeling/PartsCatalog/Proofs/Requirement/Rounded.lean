import PartsCatalog.Proofs.Binary64.Arithmetic
import PartsCatalog.Requirement

/-!
# Figures in binary64 numbers

Whether the stock lacks anything is read off a rounded total, and how many pieces it suffices for
off a rounded quotient.  Both are rounded to the nearest number, so they agree wherever the exact
total is not just above the stock (`agree_ofBinary64?`).
-/

namespace PartsCatalog

open Binary64

/-- The figures agree about whether the stock suffices for so many pieces. -/
def Figures.Agree (figures : Figures) (count : Nat) : Prop :=
  zero.less figures.additional ↔ figures.canProduce < count

/-- The stock is short of the exact total, but by no more than a `2⁻⁵³` of it. -/
def JustShort (perUnit : Binary64) (count : Nat) (stock : Binary64) : Prop :=
  let total := count * perUnit.magnitude
  stock.magnitude < total ∧ 2 ^ 53 * (total - stock.magnitude) ≤ total

namespace Figures

variable {perUnit stock : Binary64} {count : Nat} {figures : Figures}

/-- A stock is finite, and if its sign is negative it is a zero, so that the sign makes no
difference. -/
theorem exists_of_isValidAmount (valid : Stock.isValidAmount stock) :
    ∃ negative rank, stock = .finite negative rank ∧ (negative = true → units rank = 0) ∧
      signed negative (units rank) = units rank := by
  unfold Stock.isValidAmount at valid
  rw [Bool.and_eq_true, Bool.not_eq_true'] at valid
  obtain ⟨isFinite, notLess⟩ := valid
  cases stock with
  | nan => cases isFinite
  | infinite negative => cases isFinite
  | finite negative rank =>
    cases negative with
    | false => exact ⟨false, rank, rfl, nofun, rfl⟩
    | true =>
      have none : units rank = 0 := by
        by_contra nonzero
        have pos : 0 < rank.val := units_pos_iff.1 (Nat.pos_of_ne_zero nonzero)
        have less : (finite true rank).less zero :=
          less_iff.2 ⟨-(rank.val : Int), 0, rfl, rfl, by omega⟩
        rw [less] at notLess
        cases notLess
      exact ⟨true, rank, rfl, fun _ => none, by rw [none]; rfl⟩

theorem ofBinary64?_eq_some (computed : ofBinary64? perUnit count stock = some figures) :
    (perUnit.mul (.ofNat count)).isFinite ∧
      figures.additional = ((perUnit.mul (.ofNat count)).sub stock).clampBelow ∧
      figures.canProduce =
        if zero.less perUnit then (stock.div perUnit).floor.toCount countMost else 0 := by
  simp only [ofBinary64?] at computed
  by_cases isFinite : (perUnit.mul (.ofNat count)).isFinite
  · rw [if_pos isFinite] at computed
    obtain rfl := Option.some.inj computed
    exact ⟨isFinite, rfl, rfl⟩
  · rw [if_neg isFinite] at computed
    cases computed

/-- Where the total is finite, so is what one piece takes, and the total is the nearest number to
the exact one. -/
theorem exists_total (isFinite : (perUnit.mul (.ofNat count)).isFinite)
    (positive : zero.less perUnit) (nonzero : 0 < count) (fits : count ≤ 2 ^ 53) :
    ∃ a total : Fin magnitudeCount, perUnit = .finite false a ∧ 0 < units a ∧
      perUnit.mul (.ofNat count) = .finite false total ∧
      total = nearestRank (units a * (count * unitsPerOne)) unitsPerOne := by
  obtain ⟨n, represented, exact⟩ := exists_ofNat_eq fits
  rw [represented] at isFinite ⊢
  cases zero_less_iff.1 positive with
  | infinite =>
    have pos : n.val ≠ 0 :=
      Nat.ne_of_gt (units_pos_iff.1 (exact ▸ Nat.mul_pos nonzero unitsPerOne_pos))
    rw [mul, if_neg pos] at isFinite
    cases isFinite
  | @finite a pos =>
    rw [mul, Bool.xor_self, exact] at isFinite ⊢
    obtain ⟨total, rounded, nearest⟩ := exists_of_isFinite isFinite
    exact ⟨a, total, rfl, pos, rounded, nearest⟩

/-! ## The total and the stock -/

variable {a b : Fin magnitudeCount}

/-- A stock that suffices for the exact total suffices for the rounded one. -/
theorem nearestRank_total_le (covered : count * units a ≤ units b) :
    nearestRank (units a * (count * unitsPerOne)) unitsPerOne ≤ b := by
  refine nearestRank_le_of_le unitsPerOne_pos ?_
  calc units a * (count * unitsPerOne) = count * units a * unitsPerOne := by ring
    _ ≤ units b * unitsPerOne := Nat.mul_le_mul_right _ covered

/-- A stock that is clearly short of the exact total is short of the rounded one. -/
theorem lt_nearestRank_total (short : units b < count * units a)
    (apart : count * units a < 2 ^ 53 * (count * units a - units b)) :
    b < nearestRank (units a * (count * unitsPerOne)) unitsPerOne := by
  refine lt_nearestRank unitsPerOne_pos ?_
  calc (units b + units (b + 1)) * unitsPerOne
      < 2 * (count * units a) * unitsPerOne :=
        Nat.mul_lt_mul_of_pos_right (units_add_units_succ_lt short apart) unitsPerOne_pos
    _ = 2 * (units a * (count * unitsPerOne)) := by ring

/-! ## The stock and its pieces -/

/-- A stock that suffices for the exact total suffices for so many pieces. -/
theorem reaches_of_covered (pos : 0 < units a) (fits : count ≤ 2 ^ 53)
    (covered : count * units a ≤ units b) :
    (ofUnits false (units b * unitsPerOne) (units a)).Reaches (count * unitsPerOne) := by
  obtain ⟨rank, -, exact⟩ := exists_units_eq fits unitExponent
  rw [← unitsPerOne_eq] at exact
  rw [← exact]
  refine Reaches.ofUnits pos ?_
  calc units rank * units a = count * units a * unitsPerOne := by rw [exact]; ring
    _ ≤ units b * unitsPerOne := Nat.mul_le_mul_right _ covered

/-- A stock that is clearly short of the exact total does not suffice for so many pieces. -/
theorem not_reaches_of_short (pos : 0 < units a) (nonzero : 0 < count) (fits : count ≤ 2 ^ 53)
    (short : units b < count * units a)
    (apart : count * units a < 2 ^ 53 * (count * units a - units b)) :
    ¬ (ofUnits false (units b * unitsPerOne) (units a)).Reaches (count * unitsPerOne) := by
  obtain ⟨rank, bound, exact⟩ := exists_units_eq fits unitExponent
  rw [← unitsPerOne_eq] at exact
  have represented : rank ≤ magnitudeCount := by
    rw [magnitudeCount, Nat.pow_eq]
    rw [unitExponent_eq] at bound
    omega
  rw [← exact, Reaches.ofUnits_iff represented, Nat.not_le]
  -- counts are far from the smallest magnitudes, where steps are large
  have large : 2 ^ 53 ≤ units rank := by
    rw [exact]
    exact Nat.le_trans (two_pow_le_unitsPerOne (by decide)) (Nat.le_mul_of_pos_left _ nonzero)
  obtain ⟨before, rfl⟩ : ∃ before, rank = before + 1 :=
    Nat.exists_eq_add_one.2 (units_pos_iff.1 (Nat.lt_of_lt_of_le (by decide) large))
  obtain ⟨gap, next, gapPos, small⟩ := exists_units_succ before
  have step : 2 ^ 52 * gap < units (before + 1) := by omega
  obtain ⟨lack, total⟩ := Nat.exists_eq_add_of_le (Nat.le_of_lt short)
  rw [total, Nat.add_sub_cancel_left] at apart
  have stepLack : gap * units a < 2 * (lack * unitsPerOne) := by
    have scaled : 2 ^ 52 * (gap * units a) < 2 ^ 53 * (lack * unitsPerOne) :=
      calc 2 ^ 52 * (gap * units a) = 2 ^ 52 * gap * units a := by ring
        _ < units (before + 1) * units a := Nat.mul_lt_mul_of_pos_right step pos
        _ = (units b + lack) * unitsPerOne := by rw [exact, ← total]; ring
        _ ≤ 2 ^ 53 * lack * unitsPerOne := Nat.mul_le_mul_right _ (Nat.le_of_lt apart)
        _ = 2 ^ 53 * (lack * unitsPerOne) := by ring
    omega
  have sum : (units before + units (before + 1)) * units a + gap * units a =
      2 * (units b * unitsPerOne) + 2 * (lack * unitsPerOne) :=
    calc (units before + units (before + 1)) * units a + gap * units a
        = 2 * (units (before + 1) * units a) := by rw [next]; ring
      _ = 2 * ((units b + lack) * unitsPerOne) := by rw [exact, ← total]; ring
      _ = 2 * (units b * unitsPerOne) + 2 * (lack * unitsPerOne) := by ring
  refine Nat.lt_succ_of_le (nearestRank_le pos ?_)
  omega

theorem finite_div {negative : Bool} (pos : 0 < units a) :
    (finite negative b).div (finite false a) =
      ofUnits negative (units b * unitsPerOne) (units a) := by
  rw [div, if_neg (Nat.ne_of_gt (units_pos_iff.1 pos)), Bool.xor_false]

/-- A stock that suffices for the exact total counts no fewer pieces. -/
theorem le_count_of_covered (valid : Stock.isValidAmount stock) (pos : 0 < units a)
    (nonzero : 0 < count) (fits : count ≤ 2 ^ 53) (covered : count * units a ≤ stock.magnitude) :
    count ≤ (stock.div (finite false a)).floor.toCount countMost := by
  obtain ⟨negative, b, rfl, sign, -⟩ := exists_of_isValidAmount valid
  rw [le_toCount_floor nonzero (Nat.le_trans fits (by decide)) fits, finite_div pos]
  cases negative with
  | false => exact reaches_of_covered pos fits covered
  | true =>
    rw [magnitude, sign rfl] at covered
    exact absurd covered (Nat.not_le.2 (Nat.mul_pos nonzero pos))

/-- A stock that is clearly short of the exact total counts fewer pieces. -/
theorem count_lt_of_short (valid : Stock.isValidAmount stock) (pos : 0 < units a)
    (nonzero : 0 < count) (fits : count ≤ 2 ^ 53) (short : stock.magnitude < count * units a)
    (clear : ¬ JustShort (finite false a) count stock) :
    (stock.div (finite false a)).floor.toCount countMost < count := by
  obtain ⟨negative, b, rfl, -, -⟩ := exists_of_isValidAmount valid
  rw [← Nat.not_le, le_toCount_floor nonzero (Nat.le_trans fits (by decide)) fits, finite_div pos]
  cases negative with
  | false =>
    exact not_reaches_of_short pos nonzero fits short
      (Nat.lt_of_not_le fun near => clear ⟨short, near⟩)
  | true => exact Reaches.not_ofUnits_true

/-- Rounded, the quotient counts the pieces that the stock covers, or one more of which it is just
short. -/
theorem count_eq_div_or (valid : Stock.isValidAmount stock) (pos : 0 < units a)
    (few : stock.magnitude / (finite false a).magnitude < 2 ^ 52) :
    (stock.div (finite false a)).floor.toCount countMost =
        stock.magnitude / (finite false a).magnitude ∨
      (stock.div (finite false a)).floor.toCount countMost =
          stock.magnitude / (finite false a).magnitude + 1 ∧
        JustShort (finite false a) (stock.magnitude / (finite false a).magnitude + 1) stock := by
  have same : (finite false a).magnitude = units a := rfl
  rw [same] at few ⊢
  have covered := Nat.div_mul_le_self stock.magnitude (units a)
  have short := (Nat.div_lt_iff_lt_mul pos).1 (Nat.lt_succ_self (stock.magnitude / units a))
  generalize stock.magnitude / units a = whole at few covered short ⊢
  have least : whole ≤ (stock.div (finite false a)).floor.toCount countMost := by
    rcases Nat.eq_zero_or_pos whole with rfl | some
    · exact Nat.zero_le _
    · exact le_count_of_covered valid pos some (by omega) covered
  -- two more pieces take a whole one that the stock lacks
  have most : (stock.div (finite false a)).floor.toCount countMost < whole + 2 := by
    have next : (whole + 2) * units a = whole.succ * units a + units a := Nat.succ_mul _ _
    refine count_lt_of_short valid pos (Nat.succ_pos _) (by omega) (by omega) fun near => ?_
    have lack : units a ≤ (whole + 2) * units a - stock.magnitude := by omega
    have total : (whole + 2) * units a < 2 ^ 53 * units a :=
      Nat.mul_lt_mul_of_pos_right (by omega) pos
    exact absurd near.2 (Nat.not_le.2 (Nat.lt_of_lt_of_le total (Nat.mul_le_mul_left _ lack)))
  by_cases clear : JustShort (finite false a) (whole + 1) stock
  · have either : (stock.div (finite false a)).floor.toCount countMost = whole ∨
        (stock.div (finite false a)).floor.toCount countMost = whole + 1 := by omega
    exact either.imp_right fun more => ⟨more, clear⟩
  · have fewer := count_lt_of_short valid pos (Nat.succ_pos whole) (by omega) short clear
    exact .inl (by omega)

/-! ## Agreement -/

/-- Binary64 figures agree unless the stock is just short of the exact total. -/
theorem agree_ofBinary64? (computed : ofBinary64? perUnit count stock = some figures)
    (positive : zero.less perUnit) (valid : Stock.isValidAmount stock) (nonzero : 0 < count)
    (fits : count ≤ 2 ^ 53) (clear : ¬ JustShort perUnit count stock) : figures.Agree count := by
  obtain ⟨isFinite, additional, canProduce⟩ := ofBinary64?_eq_some computed
  obtain ⟨a, total, rfl, pos, rounded, nearest⟩ := exists_total isFinite positive nonzero fits
  rw [Agree, canProduce, if_pos positive, additional, rounded, zero_less_clampBelow]
  rcases Nat.lt_or_ge stock.magnitude (count * units a) with short | covered
  · refine iff_of_true ?_ (count_lt_of_short valid pos nonzero fits short clear)
    obtain ⟨negative, b, rfl, -, stockValue⟩ := exists_of_isValidAmount valid
    rw [zero_less_sub, stockValue, signed, if_neg Bool.false_ne_true, Int.ofNat_lt,
      units_strictMono.lt_iff_lt, nearest]
    exact lt_nearestRank_total short (Nat.lt_of_not_le fun near => clear ⟨short, near⟩)
  · refine iff_of_false ?_ (Nat.not_lt.2 (le_count_of_covered valid pos nonzero fits covered))
    obtain ⟨negative, b, rfl, -, stockValue⟩ := exists_of_isValidAmount valid
    rw [zero_less_sub, stockValue, signed, if_neg Bool.false_ne_true, Int.ofNat_lt,
      units_strictMono.lt_iff_lt, nearest]
    exact Nat.not_lt.2 (nearestRank_total_le covered)

end Figures

end PartsCatalog
