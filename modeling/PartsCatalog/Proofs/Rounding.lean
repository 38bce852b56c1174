import PartsCatalog.Rounding

/-!
# The nearest whole number

What every rounded quotient keeps of the exact one, whatever the rule for ties: it is off by half a
step at most (`two_mul_roundQuotient_le`, `two_mul_le_roundQuotient`), so it stays on the same side
of every whole number (`le_roundQuotient`, `roundQuotient_le`).
-/

namespace PartsCatalog

variable {tie : Tie} {num den k : Nat}

/-- A quotient is rounded down or up, either way to the side that is no further off. -/
theorem roundQuotient_cases (tie : Tie) (num den : Nat) :
    (roundQuotient tie num den = num / den ∧ 2 * (num % den) ≤ den) ∨
      (roundQuotient tie num den = num / den + 1 ∧ den ≤ 2 * (num % den)) := by
  unfold roundQuotient
  cases side : compare (2 * (num % den)) den with
  | lt => exact .inl ⟨rfl, Nat.le_of_lt (Nat.compare_eq_lt.1 side)⟩
  | gt => exact .inr ⟨rfl, Nat.le_of_lt (Nat.compare_eq_gt.1 side)⟩
  | eq =>
    have half : 2 * (num % den) = den := Nat.compare_eq_eq.1 side
    cases tie with
    | up => exact .inr ⟨rfl, Nat.le_of_eq half.symm⟩
    | toEven =>
      rcases Nat.mod_two_eq_zero_or_one (num / den) with even | odd
      · exact .inl ⟨by simp only [even, Nat.add_zero], Nat.le_of_eq half⟩
      · exact .inr ⟨by simp only [odd], Nat.le_of_eq half.symm⟩

theorem two_mul_roundQuotient_le : 2 * (roundQuotient tie num den * den) ≤ 2 * num + den := by
  have split := Nat.div_add_mod' num den
  rcases roundQuotient_cases tie num den with ⟨down, -⟩ | ⟨up, half⟩
  · rw [down]
    omega
  · rw [up, Nat.add_one_mul (num / den)]
    omega

theorem two_mul_le_roundQuotient (pos : 0 < den) :
    2 * num ≤ 2 * (roundQuotient tie num den * den) + den := by
  have split := Nat.div_add_mod' num den
  have rest := Nat.mod_lt num pos
  rcases roundQuotient_cases tie num den with ⟨down, half⟩ | ⟨up, -⟩
  · rw [down]
    omega
  · rw [up, Nat.add_one_mul (num / den)]
    omega

theorem le_roundQuotient (pos : 0 < den) (above : k * den ≤ num) :
    k ≤ roundQuotient tie num den := by
  have floor : k ≤ num / den := (Nat.le_div_iff_mul_le pos).2 above
  rcases roundQuotient_cases tie num den with ⟨down, -⟩ | ⟨up, -⟩ <;> omega

theorem roundQuotient_lt (below : 2 * num + den < 2 * (k * den)) :
    roundQuotient tie num den < k := by
  have near : 2 * (roundQuotient tie num den * den) ≤ 2 * num + den := two_mul_roundQuotient_le
  exact Nat.lt_of_mul_lt_mul_right (a := den) (by omega)

theorem roundQuotient_le (pos : 0 < den) (below : num ≤ k * den) :
    roundQuotient tie num den ≤ k := by
  refine Nat.le_of_lt_add_one (roundQuotient_lt ?_)
  rw [Nat.add_one_mul k]
  omega

/-- The whole number that is off by less than half a step is the nearest one. -/
theorem roundQuotient_eq (above : 2 * (k * den) < 2 * num + den)
    (below : 2 * num < 2 * (k * den) + den) : roundQuotient tie num den = k := by
  have pos : 0 < den := by omega
  refine Nat.le_antisymm (Nat.le_of_lt_add_one (roundQuotient_lt ?_))
    (Nat.le_of_not_lt fun less => ?_)
  · rw [Nat.add_one_mul k]
    omega
  · have step : (roundQuotient tie num den + 1) * den ≤ k * den := Nat.mul_le_mul_right _ less
    have near : 2 * num ≤ 2 * (roundQuotient tie num den * den) + den :=
      two_mul_le_roundQuotient pos
    rw [Nat.add_one_mul] at step
    omega

theorem roundQuotient_mul (pos : 0 < den) : roundQuotient tie (k * den) den = k :=
  Nat.le_antisymm (roundQuotient_le pos (Nat.le_refl _)) (le_roundQuotient pos (Nat.le_refl _))

/-- A tie goes to the even one of the two. -/
theorem roundQuotient_toEven_of_tie (pos : 0 < den) (tie : 2 * num = 2 * (k * den) + den) :
    roundQuotient .toEven num den = k + k % 2 := by
  have whole : num / den = k :=
    Nat.div_eq_of_lt_le (by omega) (by rw [Nat.add_one_mul]; omega)
  have half : 2 * (num % den) = den := by
    have split := Nat.div_add_mod' num den
    rw [whole] at split
    omega
  unfold roundQuotient
  rw [half, whole]
  simp only [Nat.compare_eq_eq.2 rfl]

/-- An even number is reached from half a step below it on. -/
theorem le_roundQuotient_toEven_iff (pos : 0 < den) (even : 2 ∣ k) :
    k ≤ roundQuotient .toEven num den ↔ 2 * (k * den) ≤ 2 * num + den := by
  constructor
  · intro reached
    have scaled := Nat.mul_le_mul_right den reached
    have near : 2 * (roundQuotient .toEven num den * den) ≤ 2 * num + den :=
      two_mul_roundQuotient_le
    omega
  · intro half
    -- only the odd number below could be reached instead, and only in a tie
    refine Nat.le_of_not_lt fun next => ?_
    have near : 2 * num ≤ 2 * (roundQuotient .toEven num den * den) + den :=
      two_mul_le_roundQuotient pos
    have step := Nat.mul_le_mul_right den next
    rw [Nat.add_one_mul] at step
    have tie : 2 * num = 2 * (roundQuotient .toEven num den * den) + den := by omega
    have parity := roundQuotient_toEven_of_tie pos tie
    have upper : k * den ≤ (roundQuotient .toEven num den + 1) * den := by
      rw [Nat.add_one_mul]
      omega
    have odd : k = roundQuotient .toEven num den + 1 :=
      Nat.le_antisymm (Nat.le_of_mul_le_mul_right upper pos) next
    omega

/-- A quotient goes up from a half on. -/
theorem roundQuotient_up_pos (pos : 0 < den) (half : den ≤ 2 * num) :
    0 < roundQuotient .up num den := by
  by_cases whole : den ≤ num
  · exact le_roundQuotient pos (by omega)
  · have small : num < den := Nat.lt_of_not_le whole
    unfold roundQuotient
    rw [Nat.div_eq_of_lt small, Nat.mod_eq_of_lt small]
    cases side : compare (2 * num) den with
    | lt => exact absurd (Nat.compare_eq_lt.1 side) (Nat.not_lt.2 half)
    | eq => exact Nat.one_pos
    | gt => exact Nat.one_pos

end PartsCatalog
