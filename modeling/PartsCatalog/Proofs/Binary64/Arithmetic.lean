import PartsCatalog.Proofs.Binary64.Nearest

/-!
# Lower bounds of results

`Reaches least x` says that `x` is no less than `least` units, infinity included.  A result of an
operation reaches every magnitude that the exact result reaches, since rounding does not cross a
magnitude (`Reaches.ofUnits`); so lower bounds go through `add`, `mul`, `div` and `round`, and
whether a result is above zero or how many whole pieces it counts is read off them
(`zero_less_iff`, `le_toCount_floor`).
-/

namespace PartsCatalog.Binary64

/-! ## Units -/

/-- The smallest magnitude is `2 ^ -unitExponent`.  The number itself is kept out of sight, lest
powers of it are computed. -/
@[irreducible] def unitExponent : Nat := 1074

theorem unitExponent_eq : unitExponent = 1074 := by rw [unitExponent]

theorem unitsPerOne_eq : unitsPerOne = 2 ^ unitExponent := by
  delta unitsPerOne
  rw [← unitExponent_eq]
  exact Nat.pow_eq

theorem unitsPerOne_pos : 0 < unitsPerOne := unitsPerOne_eq ▸ Nat.two_pow_pos unitExponent

theorem two_pow_le_unitsPerOne {n : Nat} (small : n ≤ 1074) : 2 ^ n ≤ unitsPerOne := by
  rw [unitsPerOne_eq]
  exact Nat.pow_le_pow_right Nat.two_pos (unitExponent_eq ▸ small)

@[simp] theorem units_one : units 1 = 1 := by decide

/-- A rounded quotient that is finite has the nearest rank. -/
theorem exists_of_isFinite {negative : Bool} {num den : Nat}
    (isFinite : (ofUnits negative num den).isFinite) :
    ∃ rank : Fin magnitudeCount, ofUnits negative num den = .finite negative rank ∧
      rank.val = nearestRank num den := by
  rw [ofUnits_eq] at isFinite ⊢
  split at isFinite
  · next represented => exact ⟨⟨_, represented⟩, dif_pos represented, rfl⟩
  · cases isFinite

/-- How many units a finite number is away from zero. -/
def magnitude : Binary64 → Nat
  | finite _ rank => units rank
  | _ => 0

/-- Natural numbers of 53 bits are represented. -/
theorem exists_ofNat_eq {n : Nat} (fits : n ≤ 2 ^ 53) :
    ∃ rank, ofNat n = .finite false rank ∧ units rank = n * unitsPerOne := by
  obtain ⟨rank, bound, exact⟩ := exists_units_eq fits unitExponent
  rw [← unitsPerOne_eq] at exact
  have same : nearestRank (n * unitsPerOne) 1 = rank := by
    rw [← exact, ← Nat.mul_one (units rank)]
    exact nearestRank_units_mul Nat.one_pos
  have finite : nearestRank (n * unitsPerOne) 1 < magnitudeCount := by
    rw [same, magnitudeCount, Nat.pow_eq]
    rw [unitExponent_eq] at bound
    omega
  exact ⟨⟨_, finite⟩, by rw [ofNat, ofUnits_eq, dif_pos finite], (congrArg units same).trans exact⟩

/-- Powers of two are magnitudes, also below one. -/
theorem exists_units_eq_two_pow (exponent : Nat) :
    ∃ rank ≤ (exponent + 2) * 2 ^ 52, units rank = 2 ^ exponent := by
  obtain ⟨rank, bound, exact⟩ := exists_units_eq (n := 1) (by decide) exponent
  exact ⟨rank, bound, exact.trans (Nat.one_mul _)⟩

/-- A natural number of any size is rounded to a number between the same powers of two. -/
theorem exists_ofNat_between {n k : Nat} (small : k ≤ 900) (above : 2 ^ k ≤ n)
    (below : n ≤ 2 ^ (k + 1)) :
    ∃ rank, ofNat n = .finite false rank ∧ 2 ^ k * unitsPerOne ≤ units rank ∧
      units rank ≤ 2 ^ (k + 1) * unitsPerOne := by
  obtain ⟨low, -, lowUnits⟩ := exists_units_eq_two_pow (k + unitExponent)
  obtain ⟨high, bound, highUnits⟩ := exists_units_eq_two_pow (k + 1 + unitExponent)
  rw [Nat.pow_add, ← unitsPerOne_eq] at lowUnits highUnits
  have lowest : low ≤ nearestRank (n * unitsPerOne) 1 := by
    refine le_nearestRank Nat.one_pos ?_
    rw [Nat.mul_one, lowUnits]
    exact Nat.mul_le_mul_right _ above
  have highest : nearestRank (n * unitsPerOne) 1 ≤ high := by
    refine nearestRank_le_of_le Nat.one_pos ?_
    rw [Nat.mul_one, highUnits]
    exact Nat.mul_le_mul_right _ below
  have represented : nearestRank (n * unitsPerOne) 1 < magnitudeCount := by
    rw [magnitudeCount, Nat.pow_eq]
    rw [unitExponent_eq] at bound
    omega
  refine ⟨⟨_, represented⟩, by rw [ofNat, ofUnits_eq, dif_pos represented], ?_, ?_⟩
  · rw [← lowUnits]
    exact units_strictMono.monotone lowest
  · rw [← highUnits]
    exact units_strictMono.monotone highest

/-! ## Finite products -/

/-- A quotient that is no larger than a magnitude is rounded to a finite number. -/
theorem isFinite_ofUnits {negative : Bool} {num den : Nat} (rank : Nat) (pos : 0 < den)
    (below : num ≤ units rank * den) (represented : rank < magnitudeCount) :
    (ofUnits negative num den).isFinite := by
  rw [ofUnits_eq, dif_pos (Nat.lt_of_le_of_lt (nearestRank_le_of_le pos below) represented)]
  rfl

theorem isFinite_ofInt {n : Int} (few : n.natAbs ≤ 2 ^ 63) : (ofInt n).isFinite := by
  obtain ⟨limit, bound, limitUnits⟩ := exists_units_eq_two_pow (63 + unitExponent)
  refine isFinite_ofUnits limit Nat.one_pos ?_ ?_
  · rw [limitUnits, Nat.pow_add, ← unitsPerOne_eq, Nat.mul_one]
    exact Nat.mul_le_mul_right _ few
  · rw [unitExponent_eq] at bound
    rw [magnitudeCount, Nat.pow_eq]
    omega

theorem units_lt_two_pow {rank exponent : Nat} (below : rank < (exponent + 1) * 2 ^ 52) :
    units rank < 2 ^ (52 + exponent) := by
  have limit : units (exponent * 2 ^ 52 + 2 ^ 52) = 2 ^ 52 * 2 ^ exponent :=
    units_steps (.inr (Nat.le_refl _)) (by decide)
  rw [Nat.pow_add, ← limit]
  exact units_strictMono (by omega)

/-- A product with a count is finite unless the factor is near the largest number. -/
theorem isFinite_mul_ofNat {negative : Bool} {rank : Fin magnitudeCount} {count bits exponent : Nat}
    (below : rank.val < (exponent + 1) * 2 ^ 52) (few : count < 2 ^ bits) (fits : bits ≤ 53)
    (room : exponent + bits < 1993) : ((finite negative rank).mul (ofNat count)).isFinite := by
  obtain ⟨factor, represented, exact⟩ :=
    exists_ofNat_eq (Nat.le_trans (Nat.le_of_lt few) (Nat.pow_le_pow_right Nat.two_pos fits))
  obtain ⟨limit, bound, limitUnits⟩ := exists_units_eq_two_pow (52 + exponent + bits)
  rw [represented, mul]
  refine isFinite_ofUnits limit unitsPerOne_pos ?_ ?_
  · rw [exact, limitUnits, ← Nat.mul_assoc, Nat.pow_add 2 _ bits]
    exact Nat.mul_le_mul_right _ (Nat.mul_le_mul (Nat.le_of_lt (units_lt_two_pow below))
      (Nat.le_of_lt few))
  · rw [magnitudeCount, Nat.pow_eq]
    omega

/-! ## Reaching a magnitude -/

/-- A number is no less than so many units. -/
inductive Reaches (least : Nat) : Binary64 → Prop
  | infinite : Reaches least (.infinite false)
  | finite {rank : Fin magnitudeCount} (bound : least ≤ units rank) :
    Reaches least (.finite false rank)

theorem less_iff {x y : Binary64} :
    x.less y ↔ ∃ a b, x.order? = some a ∧ y.order? = some b ∧ a < b := by
  unfold less compare?
  cases x.order? <;> cases y.order? <;> simp [compare_lt_iff_lt]

/-- Above zero is what reaches one unit. -/
theorem zero_less_iff {x : Binary64} : zero.less x ↔ x.Reaches 1 := by
  have none : zero.order? = some 0 := rfl
  rw [less_iff, none]
  constructor
  · rintro ⟨a, b, same, there, above⟩
    obtain rfl : 0 = a := Option.some.inj same
    cases x with
    | nan => cases there
    | infinite negative =>
      cases negative with
      | false => exact .infinite
      | true =>
        obtain rfl : -(magnitudeCount : Int) = b := Option.some.inj there
        omega
    | finite negative rank =>
      cases negative with
      | false =>
        obtain rfl : (rank.val : Int) = b := Option.some.inj there
        exact .finite (units_pos_iff.2 (Int.natCast_pos.1 above))
      | true =>
        obtain rfl : -(rank.val : Int) = b := Option.some.inj there
        omega
  · intro reaches
    cases reaches with
    | infinite => exact ⟨0, _, rfl, rfl, Int.natCast_pos.2 magnitudeCount_pos⟩
    | finite bound => exact ⟨0, _, rfl, rfl, Int.natCast_pos.2 (units_pos_iff.1 bound)⟩

namespace Reaches

variable {least other : Nat} {x y : Binary64}

theorem finite_iff {negative : Bool} {rank : Fin magnitudeCount} :
    (Binary64.finite negative rank).Reaches least ↔ negative = false ∧ least ≤ units rank := by
  constructor
  · intro reaches
    cases reaches with
    | finite bound => exact ⟨rfl, bound⟩
  · rintro ⟨rfl, bound⟩
    exact .finite bound

/-- Rounding a quotient keeps it on its side of a magnitude. -/
theorem ofUnits {num den rank : Nat} (pos : 0 < den) (above : units rank * den ≤ num) :
    (ofUnits false num den).Reaches (units rank) := by
  rw [ofUnits_eq]
  split
  · exact .finite (units_strictMono.monotone (le_nearestRank pos above))
  · exact .infinite

theorem ofNat {n rank : Nat} (above : units rank ≤ n * unitsPerOne) :
    (ofNat n).Reaches (units rank) :=
  ofUnits Nat.one_pos (by rwa [Nat.mul_one])

theorem add {rank : Nat} (left : x.Reaches least) (right : y.Reaches other)
    (sum : units rank ≤ least + other) : (x.add y).Reaches (units rank) := by
  cases left with
  | infinite =>
    cases right with
    | infinite => exact .infinite
    | finite => exact .infinite
  | finite boundA =>
    cases right with
    | infinite => exact .infinite
    | @finite b boundB =>
      rw [Binary64.add]
      simp only [signed, Bool.false_eq_true, if_false, Bool.and_self]
      split
      · exact .finite (by omega)
      · rw [decide_eq_false (by omega)]
        exact ofUnits Nat.one_pos (by omega)

theorem mul {rank : Nat} {b : Fin magnitudeCount} (left : x.Reaches least)
    (product : units rank * unitsPerOne ≤ least * units b) (pos : 0 < b.val) :
    (x.mul (.finite false b)).Reaches (units rank) := by
  cases left with
  | infinite =>
    rw [Binary64.mul, if_neg (Nat.ne_of_gt pos)]
    exact .infinite
  | finite bound =>
    rw [Binary64.mul, Bool.xor_self]
    exact ofUnits unitsPerOne_pos (Nat.le_trans product (Nat.mul_le_mul_right _ bound))

theorem div {rank : Nat} {b : Fin magnitudeCount} (left : x.Reaches least)
    (quotient : units rank * units b ≤ least * unitsPerOne) (pos : 0 < b.val) :
    (x.div (.finite false b)).Reaches (units rank) := by
  cases left with
  | infinite => exact .infinite
  | finite bound =>
    rw [Binary64.div, if_neg (Nat.ne_of_gt pos)]
    exact ofUnits (units_pos_iff.2 pos) (Nat.le_trans quotient (Nat.mul_le_mul_right _ bound))

/-- What reaches a half is rounded to one or more. -/
theorem round (half : x.Reaches least) (isHalf : unitsPerOne ≤ 2 * least) :
    x.round.Reaches unitsPerOne := by
  obtain ⟨rank, -, one⟩ := exists_units_eq_two_pow unitExponent
  rw [← unitsPerOne_eq] at one
  cases half with
  | infinite => exact .infinite
  | finite bound =>
    rw [Binary64.round, ← one]
    refine ofUnits Nat.one_pos ?_
    rw [one, Nat.mul_one]
    exact Nat.le_mul_of_pos_left _ (roundQuotient_up_pos unitsPerOne_pos (by omega))

/-- A rounded quotient reaches the magnitudes of the ranks up to its own. -/
theorem ofUnits_iff {num den rank : Nat} (represented : rank ≤ magnitudeCount) :
    (Binary64.ofUnits false num den).Reaches (units rank) ↔ rank ≤ nearestRank num den := by
  rw [ofUnits_eq]
  split
  · rw [finite_iff, units_strictMono.le_iff_le]
    exact ⟨And.right, fun reached => ⟨rfl, reached⟩⟩
  · next past => exact ⟨fun _ => by omega, fun _ => .infinite⟩

/-- What is below zero reaches nothing, whatever it is rounded to. -/
theorem not_ofUnits_true {num den : Nat} : ¬ (Binary64.ofUnits true num den).Reaches least := by
  rw [ofUnits_eq]
  split <;> rintro ⟨⟩

end Reaches

/-! ## Signs of differences -/

/-- A difference is above zero exactly where the exact one is. -/
theorem zero_less_sub {s t : Bool} {a b : Fin magnitudeCount} :
    zero.less ((finite s a).sub (finite t b)) ↔ signed t (units b) < signed s (units a) := by
  have sum_eq : signed s (units a) + signed (!t) (units b) =
      signed s (units a) - signed t (units b) := by
    cases t
    · rfl
    · simp [signed]
  rw [zero_less_iff, sub, neg, add]
  simp only [sum_eq]
  split
  · next none =>
    refine ⟨fun reaches => ?_, fun above => absurd none (by omega)⟩
    exact absurd (Reaches.finite_iff.1 reaches).2 (by decide)
  · next differ =>
    rcases Int.lt_or_gt_of_ne differ with below | above
    · rw [decide_eq_true below]
      exact ⟨fun reaches => absurd reaches Reaches.not_ofUnits_true, fun above => by omega⟩
    · rw [decide_eq_false (Int.not_lt.2 (Int.le_of_lt above)), ← units_one]
      refine ⟨fun _ => by omega, fun _ => Reaches.ofUnits Nat.one_pos ?_⟩
      rw [units_one]
      omega

@[simp] theorem zero_less_clampBelow {x : Binary64} : zero.less x.clampBelow = zero.less x := by
  rw [clampBelow]
  split
  · rfl
  · next none => rw [Bool.eq_false_iff.2 none]; rfl

/-! ## Whole pieces -/

theorem toCount_ofUnits_true {num den limit : Nat} : (ofUnits true num den).toCount limit = 0 := by
  rw [ofUnits_eq]
  split <;> rfl

theorem toCount_finite_false {limit : Nat} {a : Fin magnitudeCount} :
    (finite false a).toCount limit = min limit (units a / unitsPerOne) := by
  rw [toCount, if_neg Bool.false_ne_true]

/-- A number that is not past a magnitude counts no more whole pieces. -/
theorem toCount_ofUnits_le {num limit : Nat} {a : Fin magnitudeCount} (below : num ≤ units a) :
    (ofUnits false num 1).toCount limit ≤ units a / unitsPerOne := by
  have notPast : nearestRank num 1 ≤ a :=
    nearestRank_le_of_le Nat.one_pos (by rwa [Nat.mul_one])
  rw [ofUnits_eq, dif_pos (Nat.lt_of_le_of_lt notPast a.isLt), toCount_finite_false]
  exact Nat.le_trans (Nat.min_le_right _ _)
    (Nat.div_le_div_right (units_strictMono.monotone notPast))

/-- A number of so many ones counts so many whole pieces. -/
theorem le_toCount_ofUnits {num n limit : Nat} (within : n ≤ limit) (fits : n ≤ 2 ^ 53)
    (above : n * unitsPerOne ≤ num) : n ≤ (ofUnits false num 1).toCount limit := by
  obtain ⟨rank, -, exact⟩ := exists_units_eq fits unitExponent
  rw [← unitsPerOne_eq] at exact
  have reached : rank ≤ nearestRank num 1 :=
    le_nearestRank Nat.one_pos (by rwa [Nat.mul_one, exact])
  rw [ofUnits_eq]
  split
  · rw [toCount_finite_false, Nat.le_min, Nat.le_div_iff_mul_le unitsPerOne_pos, ← exact]
    exact ⟨within, units_strictMono.monotone reached⟩
  · exact within

theorem floor_finite_false (a : Fin magnitudeCount) :
    (finite false a).floor = ofUnits false (units a / unitsPerOne * unitsPerOne) 1 := by
  rw [floor]
  simp only [Bool.false_and, Bool.false_eq_true, if_false]

/-- Counting the whole pieces of a number reaches a count exactly where the number does. -/
theorem le_toCount_floor {x : Binary64} {n limit : Nat} (pos : 0 < n) (within : n ≤ limit)
    (fits : n ≤ 2 ^ 53) : n ≤ x.floor.toCount limit ↔ x.Reaches (n * unitsPerOne) := by
  have uncounted : ¬ n ≤ 0 := Nat.not_le.2 pos
  cases x with
  | nan => exact ⟨fun counted => absurd counted uncounted, nofun⟩
  | infinite negative =>
    cases negative with
    | false => exact ⟨fun _ => .infinite, fun _ => within⟩
    | true => exact ⟨fun counted => absurd counted uncounted, nofun⟩
  | finite negative a =>
    cases negative with
    | true =>
      rw [floor, toCount_ofUnits_true]
      exact ⟨fun counted => absurd counted uncounted, nofun⟩
    | false =>
      rw [floor_finite_false, Reaches.finite_iff, ← Nat.le_div_iff_mul_le unitsPerOne_pos]
      constructor
      · intro counted
        -- the whole part is no larger than the number, and is not rounded past it
        have whole := Nat.div_mul_le_self (units a) unitsPerOne
        exact ⟨rfl, Nat.le_trans counted (toCount_ofUnits_le whole)⟩
      · rintro ⟨-, reaches⟩
        exact le_toCount_ofUnits within fits (Nat.mul_le_mul_right _ reaches)

end PartsCatalog.Binary64
