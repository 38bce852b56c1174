import PartsCatalog.Json.Numeral
import PartsCatalog.Proofs.Binary64.Text

/-!
# Numerals in JSON

A numeral is what a reader takes whole, wherever it ends (`IsNumeral`).  The text of an integer is
one (`isNumeral_int`), and it denotes the integer (`integer?_ofLiteral`).
-/

namespace PartsCatalog.Json

open Binary64 Text

variable {literal rest : List Char}

/-- What follows a number cannot belong to it. -/
def EndsNumber (rest : List Char) : Prop :=
  ∀ c ∈ rest.head?, ¬ c.isDigit ∧ c ≠ '.' ∧ c ≠ 'e' ∧ c ≠ 'E'

/-- A literal that is taken as a whole number where it ends. -/
def IsNumeral (literal : List Char) : Prop :=
  ∀ rest, EndsNumber rest → takeNumber? (literal ++ rest) = some (literal, rest)

/-! ## Parts of a number -/

theorem takePlaces?_of_endsNumber (ends : EndsNumber rest) :
    takePlaces? rest = some ([], rest) := by
  unfold takePlaces?
  split
  · exact absurd rfl (ends '.' rfl).2.1
  · rfl

theorem takeExponent?_of_endsNumber (ends : EndsNumber rest) :
    takeExponent? rest = some ([], rest) := by
  cases rest with
  | nil => rfl
  | cons c rest =>
    obtain ⟨-, -, lower, upper⟩ := ends c rfl
    rw [takeExponent?, if_neg (by simp [lower, upper])]

/-- The first digit of a positive number is not zero. -/
theorem head?_toDigits_ne_zero : ∀ {n : Nat}, 0 < n → (Nat.toDigits 10 n).head? ≠ some '0' := by
  intro n pos
  induction n using Nat.strongRecOn with
  | ind n ih =>
    by_cases single : n < 10
    · have first : ∀ d < 10, 0 < d → d.digitChar ≠ '0' := by decide
      rw [Nat.toDigits_of_lt_base single, List.head?_cons, Ne, Option.some.injEq]
      exact first n single pos
    · have long : 10 ≤ n := Nat.le_of_not_lt single
      rw [Nat.toDigits_of_base_le (by decide) long,
        List.head?_append_of_ne_nil _ Nat.toDigits_ne_nil]
      exact ih (n / 10) (Nat.div_lt_self pos (by decide)) (Nat.div_pos long (by decide))

theorem takeWhole?_toDigits (n : Nat) (ends : EndsNumber rest) :
    takeWhole? (Nat.toDigits 10 n ++ rest) = some (Nat.toDigits 10 n, rest) := by
  rcases Nat.eq_zero_or_pos n with rfl | pos
  · rfl
  · have first := head?_toDigits_ne_zero pos
    have nonempty : Nat.toDigits 10 n ≠ [] := Nat.toDigits_ne_nil
    have digits : (Nat.toDigits 10 n ++ rest).span Char.isDigit = (Nat.toDigits 10 n, rest) :=
      span_isDigit (fun _ => isDigit_of_mem_toDigits) fun c head => (ends c head).1
    unfold takeWhole?
    split
    · next same =>
      have head : (Nat.toDigits 10 n ++ rest).head? = (Nat.toDigits 10 n).head? :=
        List.head?_append_of_ne_nil (Nat.toDigits 10 n) nonempty
      rw [← head, same] at first
      exact absurd rfl first
    · rw [takeDigits?, digits]
      simp [nonempty]

/-! ## Integers -/

theorem toList_toString_int (n : Int) :
    (toString n).toList = signText (decide (n < 0)) ++ Nat.toDigits 10 n.natAbs := by
  rw [toString_int, String.toList_ofList]

theorem isNumeral_int (n : Int) : IsNumeral (toString n).toList := by
  intro rest ends
  have whole := takeWhole?_toDigits n.natAbs ends
  have places := takePlaces?_of_endsNumber ends
  have exponent := takeExponent?_of_endsNumber ends
  rw [toList_toString_int, List.append_assoc]
  by_cases negative : n < 0
  · rw [decide_eq_true negative, signText, if_pos rfl]
    simp [takeNumber?, whole, places, exponent]
  · rw [decide_eq_false negative, signText, if_neg Bool.false_ne_true, List.nil_append]
    have nonempty : Nat.toDigits 10 n.natAbs ≠ [] := Nat.toDigits_ne_nil
    obtain ⟨c, cs, digits⟩ := List.exists_cons_of_ne_nil nonempty
    have noSign : c ≠ '-' := by
      rintro rfl
      exact absurd (isDigit_of_mem_toDigits (digits ▸ List.mem_cons_self)) (by decide)
    rw [digits] at whole ⊢
    rw [List.cons_append] at whole ⊢
    simp [takeNumber?, noSign, whole, places, exponent]

/-- The text of an integer denotes this integer. -/
theorem integer?_ofLiteral (n : Int) :
    (Numeral.ofLiteral (toString n).toList).integer? = some n := by
  have digits : ∀ c ∈ Nat.toDigits 10 n.natAbs, c.isDigit := fun _ => isDigit_of_mem_toDigits
  have nonempty : Nat.toDigits 10 n.natAbs ≠ [] := Nat.toDigits_ne_nil
  have sign : splitSign (signText (decide (n < 0)) ++ (Nat.toDigits 10 n.natAbs ++ [])) = _ :=
    splitSign_signText digits nonempty
  have all : (Nat.toDigits 10 n.natAbs ++ []).span Char.isDigit = _ := span_isDigit digits nofun
  rw [List.append_nil] at sign all
  have literal : Numeral.ofLiteral (toString n).toList =
      { negative := decide (n < 0), whole := Nat.toDigits 10 n.natAbs, places := []
        exponent := none } := by
    rw [toList_toString_int]
    simp only [Numeral.ofLiteral, sign, all, splitPlaces]
  have notMinusZero : (decide (n < 0) && n.natAbs == 0) = false := by
    rw [Bool.and_eq_false_iff, decide_eq_false_iff_not, beq_eq_false_iff_ne]
    omega
  rw [literal]
  simp only [Numeral.integer?, Nat.ofDigitChars_ten_toDigits, notMinusZero, signed_natAbs]
  rfl

end PartsCatalog.Json
