import PartsCatalog.Decimal.Convert
import PartsCatalog.Proofs.Binary64.Arithmetic
import PartsCatalog.Proofs.Decimal.Arithmetic

/-!
# Decimals of binary64 numbers

What a decimal has that was made of a binary64 number (`Converted`): 52 bits where it has places;
and where it has none, 57 bits, or the zero bits of a large binary64 number at the end, or the one
value to which everything just below the range of decimals is brought.  Only what is far below the
largest binary64 number has a decimal at all (`rank_lt_of_ofBinary64?`).

In the other direction a decimal above zero becomes a binary64 number above zero, in spite of four
roundings on the way (`zero_less_toBinary64`).
-/

namespace PartsCatalog.Decimal

/-! ## Mantissas and places -/

variable {bound mantissa places : Nat}

theorem tradeHalvings_le (halvings : Nat) (below : mantissa ≤ bound * 10 ^ places) :
    (tradeHalvings halvings mantissa places).1 ≤
      bound * 10 ^ (tradeHalvings halvings mantissa places).2 := by
  induction halvings generalizing mantissa places with
  | zero => exact below
  | succ halvings ih =>
    rw [tradeHalvings]
    split
    · refine ih ?_
      rw [Nat.pow_succ, ← Nat.mul_assoc]
      omega
    · exact ih (Nat.le_trans (Nat.div_le_self _ _) below)

theorem dropPlaces_le (count : Nat) (below : mantissa ≤ bound * 10 ^ count) :
    dropPlaces count mantissa ≤ bound := by
  induction count generalizing mantissa with
  | zero => rwa [Nat.pow_zero, Nat.mul_one] at below
  | succ count ih =>
    rw [dropPlaces]
    split
    · exact Nat.zero_le _
    · refine ih (roundQuotient_le (by decide) ?_)
      rwa [Nat.mul_assoc, ← Nat.pow_succ]

/-- While there are places left, a mantissa has 52 bits after the excess is dropped. -/
theorem dropExcess_le (below : mantissa ≤ bound * 10 ^ places) :
    (dropExcess places mantissa).1 ≤ bound * 10 ^ (dropExcess places mantissa).2 ∧
      ((dropExcess places mantissa).2 ≠ 0 → (dropExcess places mantissa).1 < 2 ^ 52) := by
  induction places generalizing mantissa with
  | zero => exact ⟨below, fun nonzero => absurd rfl nonzero⟩
  | succ places ih =>
    rw [dropExcess]
    split
    · next small => exact ⟨below, fun _ => small⟩
    · refine ih (roundQuotient_le (by decide) ?_)
      rwa [Nat.mul_assoc, ← Nat.pow_succ]

theorem dropZeros_le (below : mantissa ≤ bound * 10 ^ places) :
    (dropZeros places mantissa).1 ≤ bound * 10 ^ (dropZeros places mantissa).2 ∧
      (dropZeros places mantissa).1 ≤ mantissa ∧
      ((dropZeros places mantissa).2 ≠ 0 → places ≠ 0) := by
  induction places generalizing mantissa with
  | zero => exact ⟨below, Nat.le_refl _, id⟩
  | succ places ih =>
    rw [dropZeros]
    split
    · have shorter : mantissa / 10 ≤ bound * 10 ^ places := by
        rw [Nat.pow_succ, ← Nat.mul_assoc] at below
        omega
      obtain ⟨first, second, -⟩ := ih shorter
      exact ⟨first, Nat.le_trans second (Nat.div_le_self _ _), fun _ => Nat.succ_ne_zero _⟩
    · exact ⟨below, Nat.le_refl _, fun _ => Nat.succ_ne_zero _⟩

/-- What halving makes of a mantissa. -/
theorem ofHalvings?_eq_some {negative : Bool} {halvings : Nat} {d : Decimal}
    (answer : ofHalvings? negative halvings mantissa = some d) :
    ∃ rounded, d.coefficient = signed negative rounded ∧ rounded ≤ mantissa * 10 ^ d.scale ∧
      (d.scale ≠ 0 → rounded < 2 ^ 52) := by
  have traded : (tradeHalvings halvings mantissa 0).1 ≤
      mantissa * 10 ^ (tradeHalvings halvings mantissa 0).2 :=
    tradeHalvings_le halvings (Nat.le_of_eq (Nat.mul_one _).symm)
  unfold ofHalvings? at answer
  generalize tradeHalvings halvings mantissa 0 = first at answer traded
  obtain ⟨many, places⟩ := first
  have fitting : dropPlaces (places - maxScale) many ≤ mantissa * 10 ^ min places maxScale := by
    refine dropPlaces_le _ ?_
    rw [Nat.mul_assoc, ← Nat.pow_add, show min places maxScale + (places - maxScale) = places by
      omega]
    exact traded
  dsimp only at answer
  obtain ⟨short, fits⟩ := dropExcess_le fitting
  generalize dropExcess (min places maxScale) (dropPlaces (places - maxScale) many) = second
    at answer short fits
  obtain ⟨few, left⟩ := second
  obtain ⟨rest, fewer, stays⟩ := dropZeros_le short
  dsimp only at answer
  generalize dropZeros left few = third at answer rest fewer stays
  obtain ⟨rounded, scale⟩ := third
  obtain ⟨coefficient, rfl⟩ := ofParts?_eq_some.1 answer
  exact ⟨rounded, coefficient, rest, fun nonzero => Nat.lt_of_le_of_lt fewer (fits (stays nonzero))⟩

/-! ## Doublings -/

/-- Every doubling makes a large number larger by half of itself at least, also where it is a
division by five that drops a remainder. -/
theorem tradeDoublings_growth (doublings tens : Nat) (large : 2 ^ 50 ≤ mantissa) :
    mantissa * 10 ^ tens * 3 ^ doublings ≤
      (tradeDoublings doublings mantissa tens).1 *
        10 ^ (tradeDoublings doublings mantissa tens).2 * 2 ^ doublings := by
  induction doublings generalizing mantissa tens with
  | zero => exact Nat.le_refl _
  | succ doublings ih =>
    -- a doubling brings twice as much, and what the division drops is less than a quarter of that
    have onward {next more : Nat} (nextLarge : 2 ^ 50 ≤ next)
        (grown : 3 * (mantissa * 10 ^ tens) ≤ 2 * (next * 10 ^ more)) :
        mantissa * 10 ^ tens * 3 ^ (doublings + 1) ≤
          (tradeDoublings doublings next more).1 *
            10 ^ (tradeDoublings doublings next more).2 * 2 ^ (doublings + 1) := by
      calc mantissa * 10 ^ tens * 3 ^ (doublings + 1)
          = 3 * (mantissa * 10 ^ tens) * 3 ^ doublings := by ring
        _ ≤ 2 * (next * 10 ^ more) * 3 ^ doublings := Nat.mul_le_mul_right _ grown
        _ = 2 * (next * 10 ^ more * 3 ^ doublings) := by ring
        _ ≤ 2 * ((tradeDoublings doublings next more).1 *
            10 ^ (tradeDoublings doublings next more).2 * 2 ^ doublings) :=
          Nat.mul_le_mul_left 2 (ih more nextLarge)
        _ = _ := by ring
    rw [tradeDoublings]
    split
    · refine onward (by omega) ?_
      rw [Nat.mul_assoc 2 mantissa]
      omega
    · next full =>
      rw [coefficientBound_eq] at full
      refine onward (by omega) ?_
      have most : 3 * mantissa ≤ 2 * (mantissa / 5 * 10) := by omega
      calc 3 * (mantissa * 10 ^ tens) = 3 * mantissa * 10 ^ tens := by ring
        _ ≤ 2 * (mantissa / 5 * 10) * 10 ^ tens := Nat.mul_le_mul_right _ most
        _ = 2 * (mantissa / 5 * 10 ^ (tens + 1)) := by ring

/-- One more doubling after a division brings more than the division dropped. -/
theorem le_tradeDoublings_succ (doublings : Nat) (full : 2 ^ 96 ≤ 2 * mantissa) :
    2 ^ 96 ≤ (tradeDoublings (doublings + 1) (mantissa / 5) 1).1 *
      10 ^ (tradeDoublings (doublings + 1) (mantissa / 5) 1).2 := by
  have divided : 2 ^ 50 ≤ mantissa / 5 := by omega
  have growth := tradeDoublings_growth (doublings + 1) 1 divided
  have more : 2 ^ (doublings + 1) * 3 ≤ 3 ^ (doublings + 1) * 2 := by
    have power := Nat.pow_le_pow_left (show 2 ≤ 3 by decide) doublings
    rw [Nat.pow_succ, Nat.pow_succ]
    omega
  have large : 2 ^ 96 * 2 ≤ mantissa / 5 * 10 ^ 1 * 3 := by omega
  refine Nat.le_of_mul_le_mul_right (c := 2 ^ (doublings + 1) * 2) ?_
    (Nat.mul_pos (Nat.two_pow_pos _) Nat.two_pos)
  calc 2 ^ 96 * (2 ^ (doublings + 1) * 2) = 2 ^ 96 * 2 * 2 ^ (doublings + 1) := by ring
    _ ≤ mantissa / 5 * 10 ^ 1 * 3 * 2 ^ (doublings + 1) := Nat.mul_le_mul_right _ large
    _ = mantissa / 5 * 10 ^ 1 * (2 ^ (doublings + 1) * 3) := by ring
    _ ≤ mantissa / 5 * 10 ^ 1 * (3 ^ (doublings + 1) * 2) := Nat.mul_le_mul_left _ more
    _ = mantissa / 5 * 10 ^ 1 * 3 ^ (doublings + 1) * 2 := by ring
    _ ≤ _ := Nat.mul_le_mul_right 2 growth
    _ = _ := Nat.mul_assoc _ _ 2

/-- Doublings are exact while they fit.  The range of decimals is left by a division, and its end is
not passed only where that is the last step and the range is left by no more than it drops. -/
theorem tradeDoublings_cases (doublings mantissa : Nat) :
    (tradeDoublings doublings mantissa 0).1 * 10 ^ (tradeDoublings doublings mantissa 0).2 =
        mantissa * 2 ^ doublings ∨
      ((tradeDoublings doublings mantissa 0).1 * 10 ^ (tradeDoublings doublings mantissa 0).2 <
          2 ^ 96 →
        (tradeDoublings doublings mantissa 0).1 * 10 ^ (tradeDoublings doublings mantissa 0).2 =
            2 ^ 96 - 6 ∧
          2 ^ 96 ≤ mantissa * 2 ^ doublings ∧ mantissa * 2 ^ doublings < 2 ^ 96 + 4) := by
  induction doublings generalizing mantissa with
  | zero => exact .inl rfl
  | succ doublings ih =>
    rw [tradeDoublings]
    split
    · rw [Nat.pow_succ, Nat.mul_comm _ 2, ← Nat.mul_assoc, Nat.mul_comm mantissa 2]
      exact ih (2 * mantissa)
    · next full =>
      rw [coefficientBound_eq, Nat.not_lt] at full
      refine .inr fun fits => ?_
      cases doublings with
      | zero =>
        rw [tradeDoublings] at fits ⊢
        dsimp only at fits ⊢
        omega
      | succ doublings => exact absurd fits (Nat.not_lt.2 (le_tradeDoublings_succ doublings full))

theorem ofDoublings?_eq_some {negative : Bool} {doublings : Nat} {d : Decimal}
    (answer : ofDoublings? negative doublings mantissa = some d) :
    ∃ digits, d.coefficient = signed negative digits ∧ d.scale = 0 ∧
      (digits = mantissa * 2 ^ doublings ∨ digits = 2 ^ 96 - 6 ∧
        2 ^ 96 ≤ mantissa * 2 ^ doublings ∧ mantissa * 2 ^ doublings < 2 ^ 96 + 4) := by
  have cases := tradeDoublings_cases doublings mantissa
  unfold ofDoublings? at answer
  generalize tradeDoublings doublings mantissa 0 = traded at answer cases
  obtain ⟨digits, tens⟩ := traded
  obtain ⟨coefficient, scale⟩ := ofParts?_eq_some.1 answer
  have bound := d.coefficient_lt
  rw [coefficient, natAbs_signed, coefficientBound_eq] at bound
  exact ⟨_, coefficient, scale, cases.imp_right fun left => left bound⟩

/-- The range of decimals is passed before 80 doublings. -/
theorem doublings_lt_of_ofDoublings? {negative : Bool} {doublings : Nat} {d : Decimal}
    (answer : ofDoublings? negative doublings mantissa = some d) (large : 2 ^ 52 ≤ mantissa) :
    doublings < 80 := by
  have growth := tradeDoublings_growth doublings 0 (Nat.le_trans (by decide) large)
  unfold ofDoublings? at answer
  generalize tradeDoublings doublings mantissa 0 = traded at answer growth
  obtain ⟨digits, tens⟩ := traded
  obtain ⟨coefficient, -⟩ := ofParts?_eq_some.1 answer
  have bound := d.coefficient_lt
  rw [coefficient, natAbs_signed, coefficientBound_eq, Nat.pow_eq] at bound
  -- `(3/2) ^ 80` is more than the `2 ^ 44` that are left from 52 bits to 96
  by_contra many
  obtain ⟨more, rfl⟩ := Nat.exists_eq_add_of_le (Nat.not_lt.1 many)
  have less : 2 ^ 96 * 2 ^ (80 + more) < 2 ^ 52 * 3 ^ (80 + more) := by
    calc 2 ^ 96 * 2 ^ (80 + more) = 2 ^ 176 * 2 ^ more := by ring
      _ < 2 ^ 52 * 3 ^ 80 * 2 ^ more := Nat.mul_lt_mul_of_pos_right (by decide) (Nat.two_pow_pos _)
      _ ≤ 2 ^ 52 * 3 ^ 80 * 3 ^ more :=
        Nat.mul_le_mul_left _ (Nat.pow_le_pow_left (by decide) more)
      _ = 2 ^ 52 * 3 ^ (80 + more) := by ring
  refine Nat.lt_irrefl (2 ^ 52 * 3 ^ (80 + more)) ?_
  calc 2 ^ 52 * 3 ^ (80 + more) ≤ mantissa * 10 ^ 0 * 3 ^ (80 + more) :=
        Nat.mul_le_mul_right _ (by rwa [Nat.pow_zero, Nat.mul_one])
    _ ≤ digits * 10 ^ tens * 2 ^ (80 + more) := growth
    _ ≤ 2 ^ 96 * 2 ^ (80 + more) := Nat.mul_le_mul_right _ (Nat.le_of_lt bound)
    _ < 2 ^ 52 * 3 ^ (80 + more) := less

/-! ## Converted numbers -/

/-- A decimal made of a binary64 number. -/
structure Converted (d : Decimal) : Prop where
  places : d.scale ≠ 0 → d.coefficient.natAbs < 2 ^ 52
  whole : d.scale = 0 → d.coefficient.natAbs < 2 ^ 57 ∨ 16 ∣ d.coefficient.natAbs ∨
    d.coefficient.natAbs = 2 ^ 96 - 6

variable {d : Decimal}

theorem converted_ofHalvings? {negative : Bool} {halvings : Nat}
    (answer : ofHalvings? negative halvings mantissa = some d) (fits : mantissa < 2 ^ 53) :
    d.Converted := by
  obtain ⟨rounded, coefficient, bound, small⟩ := ofHalvings?_eq_some answer
  have magnitude : d.coefficient.natAbs = rounded := by rw [coefficient, natAbs_signed]
  refine ⟨fun nonzero => magnitude ▸ small nonzero, fun none => .inl ?_⟩
  rw [none, Nat.pow_zero, Nat.mul_one] at bound
  omega

/-- A number of 53 bits and zeros behind them is a multiple of sixteen where it is large. -/
theorem lt_or_sixteen_dvd (fits : mantissa < 2 ^ 53) (doublings : Nat) :
    mantissa * 2 ^ doublings < 2 ^ 57 ∨ 16 ∣ mantissa * 2 ^ doublings := by
  rcases Nat.lt_or_ge doublings 4 with few | many
  · have power : 2 ^ doublings ≤ 2 ^ 3 := Nat.pow_le_pow_right Nat.two_pos (by omega)
    exact .inl (Nat.lt_of_le_of_lt (Nat.mul_le_mul_left mantissa power) (by omega))
  · exact .inr (Nat.dvd_mul_left_of_dvd (Nat.pow_dvd_pow 2 many) mantissa)

theorem converted_ofDoublings? {negative : Bool} {doublings : Nat}
    (answer : ofDoublings? negative doublings mantissa = some d) (fits : mantissa < 2 ^ 53) :
    d.Converted := by
  obtain ⟨digits, coefficient, scale, cases⟩ := ofDoublings?_eq_some answer
  have magnitude : d.coefficient.natAbs = digits := by rw [coefficient, natAbs_signed]
  refine ⟨fun nonzero => absurd scale nonzero, fun _ => ?_⟩
  rw [magnitude]
  rcases cases with rfl | ⟨rfl, -⟩
  · exact (lt_or_sixteen_dvd fits doublings).imp_right .inl
  · exact .inr (.inr rfl)

/-- Decimals of binary64 numbers have few bits where they have places. -/
theorem converted_ofBinary64? {x : Binary64} (answer : ofBinary64? x = some d) : d.Converted := by
  cases x with
  | nan => cases answer
  | infinite negative => cases answer
  | finite negative rank =>
    have fraction : rank.val % Nat.pow 2 52 < 2 ^ 52 := Nat.mod_lt _ (by decide)
    simp only [ofBinary64?] at answer
    have fits : Nat.pow 2 52 + rank.val % Nat.pow 2 52 < 2 ^ 53 := by
      rw [Nat.pow_eq] at fraction ⊢
      omega
    split at answer
    · exact converted_ofHalvings? answer (by omega)
    · split at answer
      · exact converted_ofHalvings? answer fits
      · exact converted_ofDoublings? answer fits

/-- A decimal has the sign of its binary64 number, and is zero where that is. -/
theorem exists_of_ofBinary64? {negative : Bool} {rank : Fin magnitudeCount}
    (answer : ofBinary64? (.finite negative rank) = some d) :
    ∃ digits, d.coefficient = signed negative digits ∧ (rank.val = 0 → digits = 0) := by
  simp only [ofBinary64?] at answer
  split at answer
  · next subnormal =>
    obtain ⟨digits, coefficient, bound, -⟩ := ofHalvings?_eq_some answer
    refine ⟨digits, coefficient, fun zero => ?_⟩
    rw [zero, Nat.zero_mod, Nat.zero_mul] at bound
    omega
  · next normal =>
    have nonzero : rank.val ≠ 0 := fun zero => normal (by rw [zero, Nat.zero_div])
    split at answer
    · obtain ⟨digits, coefficient, -⟩ := ofHalvings?_eq_some answer
      exact ⟨digits, coefficient, fun zero => absurd zero nonzero⟩
    · obtain ⟨digits, coefficient, -⟩ := ofDoublings?_eq_some answer
      exact ⟨digits, coefficient, fun zero => absurd zero nonzero⟩

/-- How a decimal stands to the number of units that it was made of: both are small; or the decimal
is that number; or the number is the end of the range and the decimal the last multiple of ten in
it. -/
inductive StandsFor (d : Decimal) (amount : Nat) : Prop
  | small (digits : d.coefficient.natAbs < 2 ^ 53 * 10 ^ d.scale)
      (few : amount < 2 ^ 53 * Binary64.unitsPerOne)
  | whole (scale : d.scale = 0) (same : amount = d.coefficient.natAbs * Binary64.unitsPerOne)
      (inside : d.coefficient.natAbs < 2 ^ 96 - 6)
  | last (scale : d.scale = 0) (digits : d.coefficient.natAbs = 2 ^ 96 - 6)
      (full : amount = 2 ^ 96 * Binary64.unitsPerOne)

theorem StandsFor.ofHalvings? {negative : Bool} {halvings amount : Nat}
    (answer : ofHalvings? negative halvings mantissa = some d) (fits : mantissa < 2 ^ 53)
    (few : amount < 2 ^ 53 * Binary64.unitsPerOne) : d.StandsFor amount := by
  obtain ⟨rounded, coefficient, bound, -⟩ := ofHalvings?_eq_some answer
  refine .small ?_ few
  rw [coefficient, natAbs_signed]
  exact Nat.lt_of_le_of_lt bound (Nat.mul_lt_mul_of_pos_right fits (Nat.pow_pos (by decide)))

theorem StandsFor.ofDoublings? {negative : Bool} {doublings : Nat}
    (answer : ofDoublings? negative doublings mantissa = some d) (fits : mantissa < 2 ^ 53) :
    d.StandsFor (mantissa * 2 ^ doublings * Binary64.unitsPerOne) := by
  obtain ⟨digits, coefficient, scale, cases⟩ := ofDoublings?_eq_some answer
  have magnitude : d.coefficient.natAbs = digits := by rw [coefficient, natAbs_signed]
  have even := lt_or_sixteen_dvd fits doublings
  have bound := d.coefficient_lt
  rw [coefficientBound_eq] at bound
  rcases cases with rfl | ⟨rfl, least, most⟩
  · exact .whole scale (by rw [magnitude]) (by omega)
  · have full : mantissa * 2 ^ doublings = 2 ^ 96 := by omega
    exact .last scale magnitude (by rw [full])

/-- Every decimal of a binary64 number stands for its magnitude. -/
theorem standsFor_ofBinary64? {x : Binary64} (answer : ofBinary64? x = some d) :
    d.StandsFor x.magnitude := by
  cases x with
  | nan => cases answer
  | infinite negative => cases answer
  | finite negative rank =>
    have fraction : rank.val % 2 ^ 52 < 2 ^ 52 := Nat.mod_lt _ (by decide)
    have fits : 2 ^ 52 + rank.val % 2 ^ 52 < 2 ^ 53 := by omega
    have one := Binary64.unitsPerOne_eq
    have exponent := Binary64.unitExponent_eq
    simp only [ofBinary64?, Nat.pow_eq] at answer
    rw [Binary64.magnitude, Binary64.units]
    simp only [Nat.pow_eq]
    split at answer
    · next subnormal =>
      rw [if_pos subnormal]
      refine .ofHalvings? answer (by omega) ?_
      exact Nat.lt_of_lt_of_le (by omega) (Nat.le_mul_of_pos_right _ Binary64.unitsPerOne_pos)
    · next normal =>
      rw [if_neg normal]
      split at answer
      · next low =>
        refine .ofHalvings? answer fits (Nat.mul_lt_mul_of_lt_of_le fits ?_ ?_)
        · rw [one]
          exact Nat.pow_le_pow_right Nat.two_pos (by omega)
        · exact Binary64.unitsPerOne_pos
      · next high =>
        have split : rank.val / 2 ^ 52 - 1 = rank.val / 2 ^ 52 - 1075 + Binary64.unitExponent := by
          omega
        rw [split, Nat.pow_add, ← one, ← Nat.mul_assoc]
        exact .ofDoublings? answer fits

/-- What has a decimal is far below the largest binary64 number. -/
theorem rank_lt_of_ofBinary64? {negative : Bool} {rank : Fin magnitudeCount} {d : Decimal}
    (answer : ofBinary64? (.finite negative rank) = some d) : rank.val < 1155 * 2 ^ 52 := by
  simp only [ofBinary64?] at answer
  rw [Nat.pow_eq] at answer
  split at answer
  · omega
  · split at answer
    · omega
    · have few := doublings_lt_of_ofDoublings? answer (Nat.le_add_right _ _)
      omega

/-! ## To binary64 -/

open Binary64 in
/-- What is left of some places once they are rounded to a number and back.  The power of ten is
itself rounded, to a number between the same powers of two. -/
theorem reaches_rounded_places {power places : Nat} {whole : Nat} (pos : 0 < places)
    (large : 0 < power) (small : power < 2 ^ 94) :
    (((((ofNat whole).add ((ofNat places).div (ofNat power))).mul
      (ofNat power)).round).div (ofNat power)).Reaches 1 := by
  have low : 2 ^ power.log2 ≤ power := Nat.log2_self_le (Nat.ne_of_gt large)
  have high : power < 2 ^ (power.log2 + 1) := Nat.lt_log2_self
  have log : power.log2 < 94 := (Nat.log2_lt (Nat.ne_of_gt large)).2 small
  generalize power.log2 = k at low high log
  obtain ⟨rank, rounded, atLeast, atMost⟩ :=
    exists_ofNat_between (by omega) low (Nat.le_of_lt high)
  have rankPos : 0 < rank.val := by
    refine units_pos_iff.1 (Nat.lt_of_lt_of_le ?_ atLeast)
    exact Nat.mul_pos (Nat.two_pow_pos k) unitsPerOne_pos
  obtain ⟨place, -, placeUnits⟩ := exists_units_eq_two_pow (unitExponent - (k + 1))
  obtain ⟨half, -, halfUnits⟩ := exists_units_eq_two_pow (unitExponent - 1)
  obtain ⟨one, -, oneUnits⟩ := exists_units_eq_two_pow unitExponent
  have exponent := unitExponent_eq
  rw [← unitsPerOne_eq] at oneUnits
  have inParts (n : Nat) (within : n ≤ unitExponent) :
      unitsPerOne = 2 ^ (unitExponent - n) * 2 ^ n := by
    rw [← Nat.pow_add, Nat.sub_add_cancel within, unitsPerOne_eq]
  have placesReach : (ofNat places).Reaches (units one) :=
    Reaches.ofNat (oneUnits ▸ Nat.le_mul_of_pos_left _ pos)
  have quotient : ((ofNat places).div (finite false rank)).Reaches (units place) := by
    refine placesReach.div ?_ rankPos
    calc units place * units rank
        ≤ units place * (2 ^ (k + 1) * unitsPerOne) := Nat.mul_le_mul_left _ atMost
      _ = units one * unitsPerOne := by
        rw [placeUnits, ← Nat.mul_assoc, ← inParts (k + 1) (by omega), oneUnits]
  have sum : ((ofNat whole).add ((ofNat places).div (finite false rank))).Reaches
      (units place) := by
    have none : (ofNat whole).Reaches (units 0) := Reaches.ofNat (by simp)
    exact none.add quotient (by simp)
  have product : (((ofNat whole).add ((ofNat places).div (finite false rank))).mul
      (finite false rank)).Reaches (units half) := by
    refine sum.mul ?_ rankPos
    calc units half * unitsPerOne = units place * (2 ^ k * unitsPerOne) := by
          rw [halfUnits, placeUnits, ← Nat.mul_assoc, ← Nat.pow_add]
          exact congrArg (2 ^ · * unitsPerOne) (by omega)
      _ ≤ units place * units rank := Nat.mul_le_mul_left _ atLeast
  have rest := product.round (by rw [halfUnits, inParts 1 (by omega), Nat.mul_comm]; rfl)
  rw [rounded, ← units_one]
  refine rest.div ?_ rankPos
  rw [units_one, Nat.one_mul]
  exact Nat.le_trans atMost (Nat.mul_le_mul_right _ (two_pow_le_unitsPerOne (by omega)))

/-- A decimal without a fractional part is converted as its whole part. -/
theorem magnitudeToBinary64_of_whole (whole : d.coefficient.natAbs % 10 ^ d.scale = 0) :
    d.magnitudeToBinary64 = Binary64.ofNat (d.coefficient.natAbs / 10 ^ d.scale) := by
  simp only [magnitudeToBinary64, Nat.pow_eq, whole, decide_true, Bool.or_true, if_true]

theorem magnitudeToBinary64_of_places (places : d.coefficient.natAbs % 10 ^ d.scale ≠ 0) :
    d.magnitudeToBinary64 =
      ((((Binary64.ofNat (d.coefficient.natAbs / 10 ^ d.scale)).add
        ((Binary64.ofNat (d.coefficient.natAbs % 10 ^ d.scale)).div
          (Binary64.ofNat (10 ^ d.scale)))).mul (Binary64.ofNat (10 ^ d.scale))).round).div
            (Binary64.ofNat (10 ^ d.scale)) := by
  have scaled : d.scale ≠ 0 := fun none => places (by rw [none, Nat.pow_zero, Nat.mod_one])
  simp only [magnitudeToBinary64, Nat.pow_eq, places, scaled, decide_false, Bool.or_false,
    Bool.false_eq_true, if_false]

/-- A decimal above zero becomes a binary64 number above zero. -/
theorem zero_less_toBinary64 (positive : d.isPositive) :
    Binary64.zero.less d.toBinary64 := by
  have above : 0 < d.coefficient := of_decide_eq_true positive
  have power : 0 < 10 ^ d.scale := Nat.pow_pos (by decide)
  rw [Binary64.zero_less_iff, toBinary64, if_neg (by omega)]
  by_cases whole : d.coefficient.natAbs % 10 ^ d.scale = 0
  · have some : 0 < d.coefficient.natAbs / 10 ^ d.scale :=
      Nat.div_pos (Nat.le_of_dvd (by omega) (Nat.dvd_of_mod_eq_zero whole)) power
    rw [magnitudeToBinary64_of_whole whole, ← Binary64.units_one]
    refine Binary64.Reaches.ofNat ?_
    rw [Binary64.units_one]
    exact Nat.mul_pos some Binary64.unitsPerOne_pos
  · rw [magnitudeToBinary64_of_places whole]
    refine reaches_rounded_places (Nat.pos_of_ne_zero whole) power ?_
    exact Nat.lt_of_le_of_lt (Nat.pow_le_pow_right (by decide) d.scale_le) (by decide)

theorem zero_less_toBinary64_zero : Binary64.zero.less zero.toBinary64 = false := by
  have whole : zero.coefficient.natAbs % 10 ^ zero.scale = 0 := rfl
  obtain ⟨rank, rounded, units⟩ := Binary64.exists_ofNat_eq (Nat.zero_le (2 ^ 53))
  rw [Bool.eq_false_iff, Ne, Binary64.zero_less_iff, toBinary64, if_neg (by decide),
    magnitudeToBinary64_of_whole whole, show zero.coefficient.natAbs / 10 ^ zero.scale = 0 from rfl,
    rounded, Binary64.Reaches.finite_iff, units, Nat.zero_mul]
  exact fun reaches => absurd reaches.2 (by decide)

/-- Whether a decimal is above zero can be told from its binary64 number, once what is below zero
is left off. -/
theorem zero_less_toBinary64_clampBelow :
    Binary64.zero.less d.clampBelow.toBinary64 = d.isPositive := by
  rw [clampBelow]
  split
  · next positive => rw [zero_less_toBinary64 positive, positive]
  · next none => rw [Bool.eq_false_iff.2 none, zero_less_toBinary64_zero]

end PartsCatalog.Decimal
