import Mathlib.Order.Monotone.Basic
import Mathlib.Tactic.Ring
import PartsCatalog.Binary64.Arithmetic
import PartsCatalog.Proofs.Rounding

/-!
# The nearest magnitude

The magnitudes of the finite numbers grow with their ranks, in steps that are a `2⁻⁵²` of the
magnitude at most (`exists_units_succ`).  The rank that a quotient is rounded to is nearest: the
quotient is past half-way from the rank below, and not past half-way to the rank above
(`units_add_units_le`, `le_units_add_units`).  So the rank tells on which side of a magnitude the
quotient lies.

All comparisons are between natural numbers: a quotient `num / den` counts units, and stands on one
side of an inequality as `num`, with `den` on the other.
-/

namespace PartsCatalog.Binary64

/-! ## Magnitudes of ranks -/

/-- A rank is a number of whole exponents and a number of steps, all of one size. -/
theorem units_steps {shift steps : Nat} (normal : shift = 0 ∨ 2 ^ 52 ≤ steps)
    (fits : steps ≤ 2 ^ 53) : units (shift * 2 ^ 52 + steps) = steps * 2 ^ shift := by
  unfold units
  simp only [Nat.pow_eq]
  rcases Nat.lt_or_ge steps (2 ^ 52) with subnormal | normal'
  · obtain rfl : shift = 0 := normal.resolve_right (Nat.not_le.2 subnormal)
    rw [Nat.zero_mul, Nat.zero_add, Nat.div_eq_of_lt subnormal, Nat.mod_eq_of_lt subnormal,
      if_pos rfl, Nat.pow_zero, Nat.mul_one]
  · rcases Nat.lt_or_ge steps (2 ^ 53) with inside | full
    · have exponent : (shift * 2 ^ 52 + steps) / 2 ^ 52 = shift + 1 := by omega
      have fraction : (shift * 2 ^ 52 + steps) % 2 ^ 52 = steps - 2 ^ 52 := by omega
      rw [exponent, fraction, if_neg (Nat.succ_ne_zero shift), Nat.add_sub_cancel,
        Nat.add_sub_cancel' normal']
    · -- all steps of an exponent lead to the next one
      obtain rfl : steps = 2 ^ 53 := Nat.le_antisymm fits full
      have exponent : (shift * 2 ^ 52 + 2 ^ 53) / 2 ^ 52 = shift + 2 := by omega
      have fraction : (shift * 2 ^ 52 + 2 ^ 53) % 2 ^ 52 = 0 := by omega
      rw [exponent, fraction, if_neg (Nat.succ_ne_zero _), Nat.add_zero, ← Nat.pow_add,
        ← Nat.pow_add]
      exact congrArg (2 ^ ·) (by omega)

theorem exists_steps (rank : Nat) :
    ∃ shift steps, rank = shift * 2 ^ 52 + steps ∧ (shift = 0 ∨ 2 ^ 52 ≤ steps) ∧
      steps < 2 ^ 53 := by
  rcases Nat.lt_or_ge rank (2 ^ 52) with subnormal | normal
  · exact ⟨0, rank, by omega, .inl rfl, by omega⟩
  · exact ⟨rank / 2 ^ 52 - 1, rank % 2 ^ 52 + 2 ^ 52, by omega, .inr (by omega), by omega⟩

/-- From one rank to the next the magnitude grows by one unit or by a small part of itself. -/
theorem exists_units_succ (rank : Nat) :
    ∃ gap, units (rank + 1) = units rank + gap ∧ 0 < gap ∧
      (gap = 1 ∨ 2 ^ 52 * gap ≤ units rank) := by
  obtain ⟨shift, steps, rfl, normal, fits⟩ := exists_steps rank
  have next : units (shift * 2 ^ 52 + steps + 1) = (steps + 1) * 2 ^ shift := by
    rw [Nat.add_assoc]
    exact units_steps (normal.imp_right Nat.le_succ_of_le) fits
  refine ⟨2 ^ shift, ?_, Nat.two_pow_pos shift, ?_⟩
  · rw [next, units_steps normal (Nat.le_of_lt fits), Nat.add_one_mul]
  · rw [units_steps normal (Nat.le_of_lt fits)]
    rcases normal with rfl | normal
    · exact .inl rfl
    · exact .inr (Nat.mul_le_mul_right _ normal)

/-- Half-way to the next magnitude is passed by what is further off than rounding hides. -/
theorem units_add_units_succ_lt {rank whole : Nat} (below : units rank < whole)
    (apart : whole < 2 ^ 53 * (whole - units rank)) :
    units rank + units (rank + 1) < 2 * whole := by
  obtain ⟨gap, next, -, small⟩ := exists_units_succ rank
  omega

theorem units_lt_units_succ (rank : Nat) : units rank < units (rank + 1) := by
  obtain ⟨gap, next, pos, -⟩ := exists_units_succ rank
  omega

theorem units_strictMono : StrictMono units := strictMono_nat_of_lt_succ units_lt_units_succ

@[simp] theorem units_zero : units 0 = 0 := by decide

theorem units_pos_iff {rank : Nat} : 0 < units rank ↔ 0 < rank := by
  rw [← units_zero, units_strictMono.lt_iff_lt, units_zero]

/-- Numbers of 53 bits are magnitudes, with a power of two or without. -/
theorem exists_units_eq {n : Nat} (fits : n ≤ 2 ^ 53) (exponent : Nat) :
    ∃ rank ≤ (exponent + 2) * 2 ^ 52, units rank = n * 2 ^ exponent := by
  rcases Nat.eq_zero_or_pos n with rfl | pos
  · exact ⟨0, Nat.zero_le _, by rw [units_zero, Nat.zero_mul]⟩
  -- as much of the power as the bits leave room for becomes steps
  let room := min exponent (52 - n.log2)
  have stepsFit : n * 2 ^ room ≤ 2 ^ 53 := by
    rcases Nat.lt_or_ge n.log2 53 with small | large
    · calc n * 2 ^ room ≤ 2 ^ (n.log2 + 1) * 2 ^ (52 - n.log2) :=
          Nat.mul_le_mul (Nat.le_of_lt Nat.lt_log2_self)
            (Nat.pow_le_pow_right Nat.two_pos (Nat.min_le_right _ _))
        _ = 2 ^ 53 := by
          rw [← Nat.pow_add]
          exact congrArg (2 ^ ·) (by omega)
    · have none : room = 0 := by omega
      rw [none, Nat.pow_zero, Nat.mul_one]
      exact fits
  have normal : exponent - room = 0 ∨ 2 ^ 52 ≤ n * 2 ^ room := by
    rcases Nat.le_total exponent (52 - n.log2) with small | large
    · exact .inl (by omega)
    · have full : room = 52 - n.log2 := Nat.min_eq_right large
      refine .inr ?_
      calc 2 ^ 52 ≤ 2 ^ (n.log2 + (52 - n.log2)) :=
          Nat.pow_le_pow_right Nat.two_pos (by omega)
        _ = 2 ^ n.log2 * 2 ^ (52 - n.log2) := Nat.pow_add ..
        _ ≤ n * 2 ^ room := by
          rw [full]
          exact Nat.mul_le_mul_right _ (Nat.log2_self_le (Nat.ne_of_gt pos))
  refine ⟨(exponent - room) * 2 ^ 52 + n * 2 ^ room, by omega, ?_⟩
  rw [units_steps normal stepsFit, Nat.mul_assoc, ← Nat.pow_add,
    Nat.add_sub_cancel' (Nat.min_le_left _ _)]

/-! ## Rounding to a rank -/

/-- The rank that a quotient is rounded to, also where it is past all finite numbers. -/
def nearestRank (num den : Nat) : Nat :=
  let shift := (num / den).log2 - 52
  shift * 2 ^ 52 + roundQuotient .toEven num (den * 2 ^ shift)

theorem ofUnits_eq (negative : Bool) (num den : Nat) :
    ofUnits negative num den =
      if h : nearestRank num den < magnitudeCount then .finite negative ⟨nearestRank num den, h⟩
      else .infinite negative := rfl

variable {num den rank : Nat}

/-- The steps of a rounded quotient, their size, and what they are off. -/
theorem exists_nearestRank_eq (num : Nat) (pos : 0 < den) :
    ∃ shift steps, nearestRank num den = shift * 2 ^ 52 + steps ∧
      (shift = 0 ∨ 2 ^ 52 ≤ steps ∧ 2 ^ 52 * (den * 2 ^ shift) ≤ num) ∧ steps ≤ 2 ^ 53 ∧
      2 * (steps * (den * 2 ^ shift)) ≤ 2 * num + den * 2 ^ shift ∧
      2 * num ≤ 2 * (steps * (den * 2 ^ shift)) + den * 2 ^ shift := by
  set shift := (num / den).log2 - 52 with shift_eq
  have sizePos : 0 < den * 2 ^ shift := Nat.mul_pos pos (Nat.two_pow_pos shift)
  have above : num ≤ 2 ^ 53 * (den * 2 ^ shift) := by
    have whole : num / den < 2 ^ (53 + shift) :=
      Nat.lt_of_lt_of_le Nat.lt_log2_self (Nat.pow_le_pow_right Nat.two_pos (by omega))
    calc num ≤ 2 ^ (53 + shift) * den := Nat.le_of_lt ((Nat.div_lt_iff_lt_mul pos).1 whole)
      _ = 2 ^ 53 * (den * 2 ^ shift) := by ring
  have below : shift = 0 ∨ 2 ^ 52 * (den * 2 ^ shift) ≤ num := by
    rcases Nat.eq_zero_or_pos shift with none | some
    · exact .inl none
    · have nonzero : num / den ≠ 0 := by
        intro zero
        rw [zero, Nat.log2_zero] at shift_eq
        omega
      have whole : 2 ^ (52 + shift) ≤ num / den :=
        Nat.le_trans (Nat.pow_le_pow_right Nat.two_pos (by omega)) (Nat.log2_self_le nonzero)
      refine .inr ?_
      calc 2 ^ 52 * (den * 2 ^ shift) = 2 ^ (52 + shift) * den := by ring
        _ ≤ num := (Nat.le_div_iff_mul_le pos).1 whole
  exact ⟨shift, roundQuotient .toEven num (den * 2 ^ shift), rfl,
    below.imp_right fun below => ⟨le_roundQuotient sizePos below, below⟩,
    roundQuotient_le sizePos above, two_mul_roundQuotient_le, two_mul_le_roundQuotient sizePos⟩

/-- A quotient is not past half-way to the rank above. -/
theorem le_units_add_units (num : Nat) (pos : 0 < den) :
    2 * num ≤ (units (nearestRank num den) + units (nearestRank num den + 1)) * den := by
  obtain ⟨shift, steps, same, normal, fits, -, near⟩ := exists_nearestRank_eq num pos
  have normal' : shift = 0 ∨ 2 ^ 52 ≤ steps := normal.imp_right And.left
  have here : units (nearestRank num den) = steps * 2 ^ shift := by
    rw [same, units_steps normal' fits]
  have next : steps * 2 ^ shift + 2 ^ shift ≤ units (nearestRank num den + 1) := by
    rcases Nat.lt_or_ge steps (2 ^ 53) with inside | full
    · have step : units (shift * 2 ^ 52 + (steps + 1)) = (steps + 1) * 2 ^ shift :=
        units_steps (normal'.imp_right Nat.le_succ_of_le) inside
      rw [same, Nat.add_assoc, step, Nat.add_one_mul]
    · -- the next exponent goes in steps of double size
      obtain rfl : steps = 2 ^ 53 := Nat.le_antisymm fits full
      have step : units ((shift + 1) * 2 ^ 52 + (2 ^ 52 + 1)) = (2 ^ 52 + 1) * 2 ^ (shift + 1) :=
        units_steps (.inr (Nat.le_succ _)) (by decide)
      have rank : shift * 2 ^ 52 + 2 ^ 53 + 1 = (shift + 1) * 2 ^ 52 + (2 ^ 52 + 1) := by ring
      rw [same, rank, step, Nat.pow_succ 2 shift]
      have := Nat.two_pow_pos shift
      omega
  calc 2 * num ≤ 2 * (steps * (den * 2 ^ shift)) + den * 2 ^ shift := near
    _ = (steps * 2 ^ shift + (steps * 2 ^ shift + 2 ^ shift)) * den := by ring
    _ ≤ _ := Nat.mul_le_mul_right den (by rw [here]; exact Nat.add_le_add_left next _)

/-- A quotient is past half-way from the rank below. -/
theorem units_add_units_le (pos : 0 < den) (same : nearestRank num den = rank + 1) :
    (units rank + units (rank + 1)) * den ≤ 2 * num := by
  obtain ⟨shift, steps, form, normal, fits, near, -⟩ := exists_nearestRank_eq num pos
  have normal' : shift = 0 ∨ 2 ^ 52 ≤ steps := normal.imp_right And.left
  have here : units (rank + 1) = steps * 2 ^ shift := by rw [← same, form, units_steps normal' fits]
  by_cases inside : shift = 0 ∨ 2 ^ 52 < steps
  · -- the step before is of the same size
    obtain ⟨before, rfl⟩ : ∃ before, steps = before + 1 := ⟨steps - 1, by omega⟩
    have previous : units rank = before * 2 ^ shift := by
      have form' : rank = shift * 2 ^ 52 + before := by omega
      rw [form', units_steps (inside.imp_right Nat.le_of_lt_succ) (Nat.le_of_succ_le fits)]
    have sum : (before * 2 ^ shift + (before + 1) * 2 ^ shift) * den + den * 2 ^ shift =
        2 * ((before + 1) * (den * 2 ^ shift)) := by ring
    rw [here, previous]
    omega
  · -- the quotient is no smaller than the first magnitude of its exponent
    obtain ⟨first, below⟩ := normal.resolve_left fun zero => inside (.inl zero)
    have least : steps = 2 ^ 52 := by omega
    have reached : units (rank + 1) * den ≤ num := by
      rw [here, least, Nat.mul_assoc, Nat.mul_comm _ den]
      exact below
    have smaller := Nat.mul_le_mul_right den (Nat.le_of_lt (units_lt_units_succ rank))
    rw [Nat.add_mul]
    omega

/-! ## Sides of magnitudes -/

theorem nearestRank_le (pos : 0 < den) (before : 2 * num < (units rank + units (rank + 1)) * den) :
    nearestRank num den ≤ rank := by
  by_contra past
  obtain ⟨below, same⟩ : ∃ below, nearestRank num den = below + 1 :=
    ⟨nearestRank num den - 1, by omega⟩
  have half := units_add_units_le pos same
  have sum : units rank + units (rank + 1) ≤ units below + units (below + 1) :=
    Nat.add_le_add (units_strictMono.monotone (by omega)) (units_strictMono.monotone (by omega))
  exact Nat.not_lt.2 half (Nat.lt_of_lt_of_le before (Nat.mul_le_mul_right den sum))

theorem lt_nearestRank (pos : 0 < den) (past : (units rank + units (rank + 1)) * den < 2 * num) :
    rank < nearestRank num den := by
  by_contra before
  have half := le_units_add_units num pos
  have sum : units (nearestRank num den) + units (nearestRank num den + 1) ≤
      units rank + units (rank + 1) :=
    Nat.add_le_add (units_strictMono.monotone (by omega)) (units_strictMono.monotone (by omega))
  exact Nat.not_lt.2 half (Nat.lt_of_le_of_lt (Nat.mul_le_mul_right den sum) past)

/-- A quotient that is no larger than a magnitude is not rounded past it. -/
theorem nearestRank_le_of_le (pos : 0 < den) (below : num ≤ units rank * den) :
    nearestRank num den ≤ rank := by
  refine nearestRank_le pos ?_
  have next := Nat.mul_lt_mul_of_pos_right (units_lt_units_succ rank) pos
  rw [Nat.add_mul]
  omega

/-- A quotient that is no smaller than a magnitude is not rounded below it. -/
theorem le_nearestRank (pos : 0 < den) (above : units rank * den ≤ num) :
    rank ≤ nearestRank num den := by
  cases rank with
  | zero => exact Nat.zero_le _
  | succ below =>
    refine lt_nearestRank pos ?_
    have next := Nat.mul_lt_mul_of_pos_right (units_lt_units_succ below) pos
    rw [Nat.add_mul]
    omega

theorem nearestRank_zero (pos : 0 < den) : nearestRank 0 den = 0 :=
  Nat.eq_zero_of_le_zero (nearestRank_le_of_le pos (Nat.zero_le _))

/-- A magnitude is rounded to itself. -/
theorem nearestRank_units_mul (pos : 0 < den) : nearestRank (units rank * den) den = rank :=
  Nat.le_antisymm (nearestRank_le_of_le pos (Nat.le_refl _)) (le_nearestRank pos (Nat.le_refl _))

end PartsCatalog.Binary64
