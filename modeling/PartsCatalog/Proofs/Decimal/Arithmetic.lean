import Mathlib.Tactic.Ring
import PartsCatalog.Decimal.Basic
import PartsCatalog.Proofs.Rounding

/-!
# Decimal arithmetic

Every operation answers with as many places as fit: all of them, or one less than the number that
makes the coefficient too large (`ofQuotient?_eq_some`).  So a product with a count is exact where
there is room for it (`times?_exact`), and a difference is above zero exactly where the exact one is
(`isPositive_minus?`).
-/

namespace PartsCatalog

/-- The first element with an answer. -/
theorem findSome?_range_eq_some {α : Type} {f : Nat → Option α} {a : α} {n : Nat}
    (found : (List.range n).findSome? f = some a) :
    ∃ k < n, f k = some a ∧ ∀ j < k, f j = none := by
  induction n with
  | zero => cases found
  | succ n ih =>
    rw [List.range_succ, List.findSome?_append] at found
    cases before : (List.range n).findSome? f with
    | some b =>
      rw [before, Option.some_or] at found
      obtain ⟨k, inside, here, earlier⟩ := ih (before.trans found)
      exact ⟨k, Nat.lt_succ_of_lt inside, here, earlier⟩
    | none =>
      rw [before, Option.none_or, List.findSome?_singleton] at found
      exact ⟨n, Nat.lt_succ_self n, found, fun j less =>
        List.findSome?_eq_none_iff.1 before j (List.mem_range.2 less)⟩

namespace Decimal

theorem coefficientBound_eq : coefficientBound = 2 ^ 96 := by
  unfold coefficientBound
  exact Nat.pow_eq

theorem natAbs_signed (negative : Bool) (n : Nat) : (signed negative n).natAbs = n := by
  cases negative with
  | false => rfl
  | true => exact Int.natAbs_neg n

theorem signed_natAbs (c : Int) : signed (c < 0) c.natAbs = c := by
  rcases Int.lt_or_le c 0 with negative | nonneg
  · rw [signed, if_pos (decide_eq_true negative)]
    omega
  · rw [signed, if_neg (by simpa using nonneg)]
    omega

theorem ofParts?_eq_some {c : Int} {scale : Nat} {d : Decimal} :
    ofParts? c scale = some d ↔ d.coefficient = c ∧ d.scale = scale := by
  unfold ofParts?
  split
  · rw [Option.some.injEq]
    constructor
    · rintro rfl
      exact ⟨rfl, rfl⟩
    · rintro ⟨rfl, rfl⟩
      rfl
  · next outside =>
    refine ⟨nofun, ?_⟩
    rintro ⟨rfl, rfl⟩
    exact absurd ⟨d.coefficient_lt, d.scale_le⟩ outside

theorem ofParts?_eq_none {c : Int} {scale : Nat} (within : scale ≤ maxScale) :
    ofParts? c scale = none ↔ coefficientBound ≤ c.natAbs := by
  unfold ofParts?
  simp [within]

/-! ## Rounded quotients -/

variable {negative : Bool} {num den places : Nat} {d e : Decimal}

/-- A quotient is rounded to the most places that fit. -/
theorem ofQuotient?_eq_some (within : places ≤ maxScale)
    (answer : ofQuotient? negative num den places = some d) :
    d.scale ≤ places ∧
      d.coefficient = signed negative (roundQuotient .toEven (num * 10 ^ d.scale) den) ∧
      (d.scale = places ∨
        coefficientBound ≤ roundQuotient .toEven (num * 10 ^ (d.scale + 1)) den) := by
  obtain ⟨dropped, less, here, earlier⟩ := findSome?_range_eq_some answer
  obtain ⟨coefficient, scale⟩ := ofParts?_eq_some.1 here
  refine ⟨by omega, by rw [coefficient, scale]; rfl, ?_⟩
  cases dropped with
  | zero => exact .inl scale
  | succ dropped =>
    have tooLarge := (ofParts?_eq_none (by omega)).1 (earlier dropped (Nat.lt_succ_self _))
    rw [natAbs_signed] at tooLarge
    have next : places - dropped = d.scale + 1 := by omega
    rw [next] at tooLarge
    exact .inr tooLarge

/-- A quotient whose whole part fits has an answer. -/
theorem exists_ofQuotient?_eq (fits : roundQuotient .toEven num den < coefficientBound) :
    ∃ d, ofQuotient? negative num den places = some d := by
  refine Option.isSome_iff_exists.1 (List.findSome?_isSome_iff.2 ⟨places, ?_, ?_⟩)
  · exact List.mem_range.2 (Nat.lt_succ_self places)
  · have whole : (signed negative
        (roundQuotient .toEven (num * Nat.pow 10 0) den)).natAbs < coefficientBound := by
      rwa [natAbs_signed, Nat.pow_eq, Nat.pow_zero, Nat.mul_one]
    rw [Nat.sub_self, ofParts?, dif_pos ⟨whole, Nat.zero_le _⟩]
    rfl

/-! ## Scaled coefficients -/

variable {c : Int} {scale : Nat}

/-- A scaled coefficient keeps all its places, or so many that one more would not fit. -/
theorem ofScaled?_eq_some (within : scale ≤ maxScale) (answer : ofScaled? c scale = some d) :
    (d.coefficient = c ∧ d.scale = scale) ∨
      (d.scale < scale ∧
        d.coefficient = signed (c < 0)
          (roundQuotient .toEven (c.natAbs * 10 ^ d.scale) (10 ^ scale)) ∧
        coefficientBound ≤
          roundQuotient .toEven (c.natAbs * 10 ^ (d.scale + 1)) (10 ^ scale)) := by
  rw [ofScaled?, Nat.min_eq_left within] at answer
  obtain ⟨fewer, rounded, full⟩ := ofQuotient?_eq_some within answer
  have pos : 0 < 10 ^ scale := Nat.pow_pos (by decide)
  by_cases all : d.scale = scale
  · refine .inl ⟨?_, all⟩
    rw [rounded, all]
    change signed (c < 0) (roundQuotient .toEven (c.natAbs * 10 ^ scale) (10 ^ scale)) = c
    rw [roundQuotient_mul pos, signed_natAbs]
  · exact .inr ⟨Nat.lt_of_le_of_ne fewer all, rounded, full.resolve_left all⟩

/-- A coefficient that fits keeps all its places. -/
theorem ofScaled?_exact (within : scale ≤ maxScale) (answer : ofScaled? c scale = some d)
    (fits : scale = 0 ∨ c.natAbs < coefficientBound) : d.coefficient = c ∧ d.scale = scale := by
  rcases ofScaled?_eq_some within answer with all | ⟨fewer, -, tooLarge⟩
  · exact all
  · have less : c.natAbs * 10 ^ (d.scale + 1) ≤ c.natAbs * 10 ^ scale :=
      Nat.mul_le_mul_left _ (Nat.pow_le_pow_right (by decide) fewer)
    have bound : roundQuotient .toEven (c.natAbs * 10 ^ (d.scale + 1)) (10 ^ scale) ≤ c.natAbs :=
      roundQuotient_le (Nat.pow_pos (by decide)) less
    omega

/-- Places are given up only where there is much left without them. -/
theorem isPositive_ofScaled? (within : scale ≤ maxScale) (answer : ofScaled? c scale = some d) :
    d.isPositive ↔ 0 < c := by
  rw [isPositive, decide_eq_true_iff]
  rcases ofScaled?_eq_some within answer with ⟨same, -⟩ | ⟨-, rounded, tooLarge⟩
  · rw [same]
  · have pos : 0 < 10 ^ scale := Nat.pow_pos (by decide)
    have large : 10 ^ scale ≤ c.natAbs * 10 ^ d.scale := by
      have near : 2 * (roundQuotient .toEven (c.natAbs * 10 ^ (d.scale + 1)) (10 ^ scale) *
          10 ^ scale) ≤ 2 * (c.natAbs * 10 ^ (d.scale + 1)) + 10 ^ scale :=
        two_mul_roundQuotient_le
      have scaled := Nat.mul_le_mul_right (10 ^ scale) tooLarge
      have ten : c.natAbs * 10 ^ (d.scale + 1) = 10 * (c.natAbs * 10 ^ d.scale) := by ring
      rw [coefficientBound_eq] at scaled
      omega
    have left : 0 < roundQuotient .toEven (c.natAbs * 10 ^ d.scale) (10 ^ scale) :=
      le_roundQuotient pos (by rwa [Nat.one_mul])
    rw [rounded, signed]
    by_cases below : c < 0
    · rw [if_pos (decide_eq_true below)]
      omega
    · rw [if_neg (by simpa using below)]
      have nonzero : c ≠ 0 := by
        rintro rfl
        rw [Int.natAbs_zero, Nat.zero_mul] at large
        omega
      omega

/-- A scaled coefficient that is no larger than the largest decimal has an answer. -/
theorem exists_ofScaled?_eq (fits : c.natAbs ≤ (coefficientBound - 1) * 10 ^ scale) :
    ∃ d, ofScaled? c scale = some d := by
  refine exists_ofQuotient?_eq (Nat.lt_of_le_pred (by rw [coefficientBound_eq]; decide) ?_)
  exact roundQuotient_le (Nat.pow_pos (by decide)) fits

/-! ## Products and differences -/

/-- A product with a count is exact where it has an answer and there is room. -/
theorem times?_exact {n : Nat} (answer : d.times? n = some e)
    (room : d.scale = 0 ∨ d.coefficient.natAbs * n < coefficientBound) :
    e.coefficient = d.coefficient * n ∧ e.scale = d.scale := by
  refine ofScaled?_exact d.scale_le answer (room.imp_right fun room => ?_)
  rwa [Int.natAbs_mul, Int.natAbs_natCast]

/-- A difference is above zero exactly where the exact one is. -/
theorem isPositive_minus? {f : Decimal} (answer : d.minus? e = some f) :
    f.isPositive ↔ e.coefficient * 10 ^ d.scale < d.coefficient * 10 ^ e.scale := by
  have within : max d.scale e.scale ≤ maxScale := Nat.max_le.2 ⟨d.scale_le, e.scale_le⟩
  rw [isPositive_ofScaled? within answer, Int.sub_pos]
  -- aligning leaves off the factor that the two scales have in common
  have common : (0 : Int) < 10 ^ min d.scale e.scale := Int.pow_pos (by decide)
  have left : d.scale = max d.scale e.scale - e.scale + min d.scale e.scale := by omega
  have right : e.scale = max d.scale e.scale - d.scale + min d.scale e.scale := by omega
  have factored (c : Int) (n : Nat) : c * 10 ^ (n + min d.scale e.scale) =
      c * (Nat.pow 10 n : Nat) * 10 ^ min d.scale e.scale := by
    rw [Nat.pow_eq]
    push_cast
    ring
  have leftFactored := factored e.coefficient (max d.scale e.scale - e.scale)
  have rightFactored := factored d.coefficient (max d.scale e.scale - d.scale)
  rw [← left] at leftFactored
  rw [← right] at rightFactored
  rw [leftFactored, rightFactored, Int.mul_lt_mul_right common]

/-- The difference of two decimals that are not below zero is in range. -/
theorem exists_minus?_eq (left : 0 ≤ d.coefficient) (right : 0 ≤ e.coefficient) :
    ∃ f, d.minus? e = some f := by
  have within (x : Decimal) (nonneg : 0 ≤ x.coefficient) {scale : Nat} (fewer : x.scale ≤ scale) :
      0 ≤ x.coefficient * (Nat.pow 10 (scale - x.scale) : Nat) ∧
        x.coefficient * (Nat.pow 10 (scale - x.scale) : Nat) ≤
          ((coefficientBound - 1) * 10 ^ scale : Nat) := by
    obtain ⟨digits, coefficient⟩ := Int.eq_ofNat_of_zero_le nonneg
    have bound := x.coefficient_lt
    rw [coefficient, Int.natAbs_natCast] at bound
    rw [coefficient, Nat.pow_eq, ← Int.natCast_mul, Int.ofNat_le]
    refine ⟨Int.natCast_nonneg _, Nat.mul_le_mul (Nat.le_pred_of_lt bound) ?_⟩
    exact Nat.pow_le_pow_right (by decide) (Nat.sub_le _ _)
  have leftWithin := within d left (Nat.le_max_left d.scale e.scale)
  have rightWithin := within e right (Nat.le_max_right d.scale e.scale)
  refine exists_ofScaled?_eq ?_
  dsimp only
  omega

/-! ## Whole parts of quotients -/

theorem over?_of_pos (nonneg : 0 ≤ d.coefficient) (pos : 0 < e.coefficient) :
    d.over? e = ofQuotient? false (d.coefficient.natAbs * 10 ^ e.scale)
      (e.coefficient.natAbs * 10 ^ d.scale) maxScale := by
  rw [over?, if_neg (Int.ne_of_gt pos), decide_eq_false (Int.not_lt.2 nonneg),
    decide_eq_false (Int.not_lt.2 (Int.le_of_lt pos)), Bool.xor_self]
  rfl

theorem toNat_floor {r : Nat} (rounded : d.coefficient = signed false r) :
    d.floor.toNat = r / 10 ^ d.scale := by
  rw [floor, rounded, Nat.pow_eq]
  change ((r : Int) / ((10 ^ d.scale : Nat) : Int)).toNat = _
  rw [← Int.natCast_ediv, Int.toNat_natCast]

/-- The whole part of a rounded quotient reaches every count that the quotient reaches. -/
theorem le_floor {n : Nat} (pos : 0 < den) (within : places ≤ maxScale)
    (answer : ofQuotient? false num den places = some d) (above : n * den ≤ num) :
    n ≤ d.floor.toNat := by
  obtain ⟨-, rounded, -⟩ := ofQuotient?_eq_some within answer
  have scaled : n * 10 ^ d.scale * den ≤ num * 10 ^ d.scale := by
    calc n * 10 ^ d.scale * den = n * den * 10 ^ d.scale := by ring
      _ ≤ num * 10 ^ d.scale := Nat.mul_le_mul_right _ above
  have reached : n * 10 ^ d.scale ≤ roundQuotient .toEven (num * 10 ^ d.scale) den :=
    le_roundQuotient pos scaled
  rw [toNat_floor rounded]
  exact (Nat.le_div_iff_mul_le (Nat.pow_pos (by decide))).2 reached

/-- With a place to round to, it reaches exactly the counts that the quotient comes within half a
place of. -/
theorem le_floor_iff {n : Nat} (pos : 0 < den) (within : places ≤ maxScale)
    (answer : ofQuotient? false num den places = some d) (fraction : d.scale ≠ 0) :
    n ≤ d.floor.toNat ↔ 2 * (n * den * 10 ^ d.scale) ≤ 2 * (num * 10 ^ d.scale) + den := by
  obtain ⟨-, rounded, -⟩ := ofQuotient?_eq_some within answer
  have even : 2 ∣ n * 10 ^ d.scale := Dvd.dvd.mul_left (dvd_pow (by decide) fraction) n
  rw [toNat_floor rounded, Nat.le_div_iff_mul_le (Nat.pow_pos (by decide)),
    le_roundQuotient_toEven_iff pos even, Nat.mul_right_comm]

end Decimal

end PartsCatalog
