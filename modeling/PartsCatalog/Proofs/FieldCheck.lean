import PartsCatalog.FieldCheck
import PartsCatalog.Proofs.Attempt

/-!
# Laws of checking fields

What passes the checks of the text fields.
-/

namespace PartsCatalog.FieldCheck

variable {names : List String} {name value field : String}

/-! ## Names -/

theorem nameLength_eq_ok :
    nameLength name = .ok () ↔ Limits.nameLeast ≤ name.length ∧ name.length ≤ Limits.nameMost := by
  unfold nameLength
  split <;> simp_all

theorem names_eq_ok :
    FieldCheck.names names = .ok () ↔ names ≠ [] ∧ ∀ name ∈ names, nameLength name = .ok () := by
  rw [FieldCheck.names, ← forM_eq_ok]
  cases names with
  | nil => simp
  | cons name names => simp

theorem ne_nil_of_names (proper : FieldCheck.names names = .ok ()) : names ≠ [] :=
  (names_eq_ok.1 proper).1

theorem ne_empty_of_names (proper : FieldCheck.names names = .ok ()) (member : name ∈ names) :
    name ≠ "" := by
  rintro rfl
  cases (names_eq_ok.1 proper).2 "" member

/-! ## Other texts -/

theorem required_eq_ok : required field value = .ok () ↔ Text.isBlankText value = false := by
  unfold required
  split <;> simp_all

theorem description_eq_ok : description value = .ok () ↔ value.length ≤ Limits.descriptionMost := by
  unfold description
  split <;> simp_all

end PartsCatalog.FieldCheck
