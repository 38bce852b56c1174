import PartsCatalog.Proofs.Binary64.Arithmetic

/-!
# The order of binary64 numbers

Comparing numbers is comparing their places in the order (`less_iff`, `atMost_iff`), which all
numbers have but `nan`.
-/

namespace PartsCatalog.Binary64

variable {x y : Binary64}

theorem same_iff : x.same y ↔ ∃ a b, x.order? = some a ∧ y.order? = some b ∧ a = b := by
  unfold same compare?
  cases x.order? <;> cases y.order? <;> simp
  exact eq_comm

theorem atMost_iff : x.atMost y ↔ ∃ a b, x.order? = some a ∧ y.order? = some b ∧ a ≤ b := by
  rw [atMost, Bool.or_eq_true, less_iff, same_iff]
  simp only [Int.le_iff_lt_or_eq, and_or_left, exists_or]

theorem not_less_of_atMost (atMost : x.atMost y) : y.less x = false := by
  obtain ⟨a, b, left, right, atMost⟩ := atMost_iff.1 atMost
  refine Bool.eq_false_iff.2 fun less => ?_
  obtain ⟨b', a', right', left', less⟩ := less_iff.1 less
  rw [left, Option.some.injEq] at left'
  rw [right, Option.some.injEq] at right'
  omega

end PartsCatalog.Binary64
