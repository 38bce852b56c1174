import Mathlib.Data.List.TakeDrop
import PartsCatalog.Binary64.Reader
import PartsCatalog.Binary64.Text
import PartsCatalog.Proofs.Binary64.Arithmetic
import PartsCatalog.Proofs.Text.Numeral

/-!
# Numbers that are written and read again

A number that is written with some places reads back as the number nearest to what was written
(`ofText?_fixed`), which is a finite one again.  It is the number itself if that is whole
(`toPlaces_of_isWhole`), or if the places were enough for it and it is not so large that its
neighbours are within one place of each other (`toPlaces_of_nearest`).
-/

namespace PartsCatalog.Binary64

open PartsCatalog.Text

variable {negative : Bool} {whole places rest : List Char}

/-! ## Reading literals -/

theorem span_isDigit (digits : ∀ c ∈ whole, c.isDigit) (stops : ∀ c ∈ rest.head?, ¬ c.isDigit) :
    (whole ++ rest).span Char.isDigit = (whole, rest) := by
  have stopped : rest.takeWhile Char.isDigit = [] ∧ rest.dropWhile Char.isDigit = rest := by
    cases rest with
    | nil => exact ⟨rfl, rfl⟩
    | cons c rest =>
      exact ⟨List.takeWhile_cons_of_neg (stops c rfl), List.dropWhile_cons_of_neg (stops c rfl)⟩
  rw [List.span_eq_takeWhile_dropWhile, List.takeWhile_append_of_pos digits,
    List.dropWhile_append_of_pos digits, stopped.1, stopped.2, List.append_nil]

theorem splitSign_signText (digits : ∀ c ∈ whole, c.isDigit) (nonempty : whole ≠ []) :
    splitSign (signText negative ++ (whole ++ rest)) = (negative, whole ++ rest) := by
  cases negative with
  | true => rfl
  | false =>
    cases whole with
    | nil => exact absurd rfl nonempty
    | cons c whole =>
      have digit := digits c List.mem_cons_self
      have minus : c ≠ '-' := by
        rintro rfl
        exact absurd digit (by decide)
      have plus : c ≠ '+' := by
        rintro rfl
        exact absurd digit (by decide)
      change splitSign (c :: (whole ++ rest)) = _
      unfold splitSign
      split
      · next same => exact absurd (List.cons.inj same).1 minus
      · next same => exact absurd (List.cons.inj same).1 plus
      · rfl

theorem Literal.ofChars?_whole (digits : ∀ c ∈ whole, c.isDigit) (nonempty : whole ≠ []) :
    Literal.ofChars? (signText negative ++ whole) =
      some { negative, significand := Nat.ofDigitChars 10 whole 0, exponent := 0 } := by
  have sign : splitSign (signText negative ++ (whole ++ [])) = (negative, whole ++ []) :=
    splitSign_signText digits nonempty
  have all : (whole ++ []).span Char.isDigit = (whole, []) := span_isDigit digits nofun
  rw [List.append_nil] at sign all
  simp only [Literal.ofChars?, sign, all, splitPlaces, List.isEmpty_eq_false_iff.2 nonempty,
    Bool.false_and, Bool.false_eq_true, if_false, readExponent?, Option.map_some, List.append_nil,
    List.length_nil, Int.natCast_zero, Int.sub_zero]

theorem Literal.ofChars?_places (digits : ∀ c ∈ whole, c.isDigit) (nonempty : whole ≠ [])
    (digits' : ∀ c ∈ places, c.isDigit) :
    Literal.ofChars? (signText negative ++ (whole ++ '.' :: places)) =
      some { negative, significand := Nat.ofDigitChars 10 (whole ++ places) 0
             exponent := -(places.length : Int) } := by
  have front : (whole ++ '.' :: places).span Char.isDigit = (whole, '.' :: places) :=
    span_isDigit digits (by simp)
  have back : (places ++ []).span Char.isDigit = (places, []) := span_isDigit digits' nofun
  rw [List.append_nil] at back
  simp only [Literal.ofChars?, splitSign_signText digits nonempty, front, splitPlaces, back,
    List.isEmpty_eq_false_iff.2 nonempty, Bool.false_and, Bool.false_eq_true, if_false,
    readExponent?, Option.map_some, Int.zero_sub]

/-! ## Values of literals -/

theorem ofUnits_zero {den : Nat} (pos : 0 < den) :
    ofUnits negative 0 den = .finite negative ⟨0, magnitudeCount_pos⟩ := by
  have first : nearestRank 0 den = 0 := nearestRank_zero pos
  have represented : nearestRank 0 den < magnitudeCount := by
    rw [first]
    exact magnitudeCount_pos
  rw [ofUnits_eq, dif_pos represented]
  congr 1
  exact Fin.ext first

/-- A literal of some places denotes the number nearest to its value. -/
theorem ofLiteral_places {n k : Nat} (few : k ≤ 330)
    (short : (Nat.toDigits 10 n).length ≤ 310 + k) :
    ofLiteral { negative, significand := n, exponent := -(k : Int) } =
      ofUnits negative (n * unitsPerOne) (10 ^ k) := by
  have long : 0 < (Nat.toDigits 10 n).length := Nat.length_toDigits_pos
  have notLow : ¬ ((Nat.toDigits 10 n).length + -(k : Int) < -330) := by omega
  have notHigh : ¬ (310 < (Nat.toDigits 10 n).length + -(k : Int)) := by omega
  unfold ofLiteral
  simp only [notLow, notHigh, decide_false, Bool.or_false, decide_eq_true_eq, if_false, Nat.pow_eq]
  split
  · next zero =>
    rw [zero, Nat.zero_mul, ofUnits_zero Nat.one_pos, ofUnits_zero (Nat.pow_pos (by decide))]
  · rw [Int.neg_neg, Int.toNat_natCast, Int.toNat_of_nonpos (by omega), Nat.pow_zero, Nat.mul_one]

/-! ## Rounding to places -/

/-- The number nearest to what is left of a number that is rounded to some places. -/
def toPlaces (places : Nat) : Binary64 → Binary64
  | finite negative rank =>
    ofUnits negative
      (roundQuotient .toEven (units rank * 10 ^ places) unitsPerOne * unitsPerOne) (10 ^ places)
  | x => x

variable {k : Nat} {x : Binary64}

/-- The largest magnitude is a whole number of no more than 310 digits. -/
theorem exists_largest : ∃ rank whole digits, rank < magnitudeCount ∧
    units rank = whole * unitsPerOne ∧ (whole < 10 ^ digits ∧ digits ≤ 310) ∧
      ∀ r : Fin magnitudeCount, units r ≤ whole * unitsPerOne := by
  -- the exponent is kept out of sight like that of the smallest magnitude
  obtain ⟨top, top_eq⟩ : ∃ top, top = 971 := ⟨_, rfl⟩
  have last : (top + unitExponent) * 2 ^ 52 + (2 ^ 53 - 1) + 1 = magnitudeCount := by
    rw [top_eq, unitExponent_eq, magnitudeCount, Nat.pow_eq]
    omega
  have largest : units ((top + unitExponent) * 2 ^ 52 + (2 ^ 53 - 1)) =
      (2 ^ 53 - 1) * 2 ^ top * unitsPerOne := by
    rw [units_steps (.inr (by decide)) (by decide), unitsPerOne_eq, Nat.mul_assoc, Nat.pow_add]
  have short : (2 ^ 53 - 1) * 2 ^ top < 10 ^ 309 := by
    subst top_eq
    decide +kernel
  refine ⟨_, _, 309, Nat.lt_of_succ_le (Nat.le_of_eq last), largest, ⟨short, by decide⟩,
    fun r => ?_⟩
  rw [← largest, units_strictMono.le_iff_le]
  have := r.isLt
  omega

/-- Rounding to places does not lead past the largest magnitude, which has none. -/
theorem roundQuotient_places (rank : Fin magnitudeCount) (k : Nat) :
    (Nat.toDigits 10 (roundQuotient .toEven (units rank * 10 ^ k) unitsPerOne)).length ≤ 310 + k ∧
      nearestRank (roundQuotient .toEven (units rank * 10 ^ k) unitsPerOne * unitsPerOne) (10 ^ k) <
        magnitudeCount := by
  obtain ⟨largest, whole, digits, represented, same, ⟨small, few⟩, most⟩ := exists_largest
  have bound : roundQuotient .toEven (units rank * 10 ^ k) unitsPerOne ≤ whole * 10 ^ k := by
    refine roundQuotient_le unitsPerOne_pos ?_
    rw [Nat.mul_right_comm]
    exact Nat.mul_le_mul_right _ (most rank)
  constructor
  · rw [Nat.length_toDigits_le_iff (by decide) (by omega)]
    calc roundQuotient .toEven (units rank * 10 ^ k) unitsPerOne ≤ whole * 10 ^ k := bound
      _ < 10 ^ digits * 10 ^ k := Nat.mul_lt_mul_of_pos_right small (Nat.pow_pos (by decide))
      _ = 10 ^ (digits + k) := (Nat.pow_add ..).symm
      _ ≤ 10 ^ (310 + k) := Nat.pow_le_pow_right (by decide) (by omega)
  · refine Nat.lt_of_le_of_lt (nearestRank_le_of_le (Nat.pow_pos (by decide)) ?_) represented
    rw [same, Nat.mul_right_comm]
    exact Nat.mul_le_mul_right _ bound

theorem isFinite_toPlaces (finite : x.isFinite) : (x.toPlaces k).isFinite := by
  cases x with
  | finite negative rank =>
    rw [toPlaces, ofUnits_eq, dif_pos (roundQuotient_places rank k).2]
    rfl
  | nan | infinite => cases finite

theorem ofText?_of_literal {s : String} {l : Literal} (read : Literal.ofChars? s.toList = some l)
    (finite : (ofLiteral l).isFinite) : ofText? s = some (ofLiteral l) := by
  rw [ofText?, read, Option.map_some, Option.filter_some, if_pos finite]

theorem toList_fixed (negative : Bool) (rank : Fin magnitudeCount) (k : Nat) :
    ((finite negative rank).fixed k).toList =
      let scaled := roundQuotient .toEven (units rank * 10 ^ k) unitsPerOne
      signText negative ++
        (Nat.toDigits 10 (scaled / 10 ^ k) ++ '.' :: paddedDigits k (scaled % 10 ^ k)) := by
  rw [fixed, textWith, String.toList_ofList]
  simp only [Nat.pow_eq]

theorem plain_signText {c : Char} (member : c ∈ signText negative) : Plain c := by
  cases negative with
  | true => exact .inr (.inl (List.mem_singleton.1 member))
  | false => cases member

theorem plain_fixed {c : Char} (isFinite : x.isFinite) (member : c ∈ (x.fixed k).toList) :
    Plain c := by
  cases x with
  | nan | infinite => cases isFinite
  | finite negative rank =>
    rw [toList_fixed] at member
    rcases List.mem_append.1 member with sign | member
    · exact plain_signText sign
    rcases List.mem_append.1 member with digit | member
    · exact .inl (isDigit_of_mem_toDigits digit)
    rcases List.mem_cons.1 member with rfl | digit
    · exact .inr (.inr rfl)
    · exact .inl (isDigit_of_mem_paddedDigits digit)

/-- What is written with places reads back as the number nearest to it. -/
theorem ofText?_fixed (isFinite : x.isFinite) (pos : 0 < k) (few : k ≤ 330) :
    ofText? (x.fixed k) = some (x.toPlaces k) := by
  cases x with
  | nan | infinite => cases isFinite
  | finite negative rank =>
    set scaled := roundQuotient .toEven (units rank * 10 ^ k) unitsPerOne with scaled_eq
    have width : (paddedDigits k (scaled % 10 ^ k)).length = k :=
      length_paddedDigits pos (Nat.mod_lt _ (Nat.pow_pos (by decide)))
    have digits : Nat.ofDigitChars 10
        (Nat.toDigits 10 (scaled / 10 ^ k) ++ paddedDigits k (scaled % 10 ^ k)) 0 = scaled := by
      rw [Nat.ofDigitChars_append, Nat.ofDigitChars_ten_toDigits, ofDigitChars_paddedDigits, width,
        Nat.div_add_mod]
    have value : ofLiteral { negative, significand := scaled, exponent := -(k : Int) } =
        (finite negative rank).toPlaces k :=
      ofLiteral_places few (roundQuotient_places rank k).1
    have read : Literal.ofChars? ((finite negative rank).fixed k).toList =
        some { negative, significand := scaled, exponent := -(k : Int) } := by
      rw [toList_fixed, Literal.ofChars?_places (fun _ => isDigit_of_mem_toDigits)
        Nat.toDigits_ne_nil (fun _ => isDigit_of_mem_paddedDigits), ← scaled_eq, digits, width]
    rw [← value]
    refine ofText?_of_literal read ?_
    rw [value]
    exact isFinite_toPlaces rfl

/-- What is written of a whole number reads back as the number nearest to it. -/
theorem ofText?_toDigits {n : Nat} (short : (Nat.toDigits 10 n).length ≤ 310)
    (isFinite : (ofUnits negative (n * unitsPerOne) 1).isFinite) :
    ofText? (String.ofList (signText negative ++ Nat.toDigits 10 n)) =
      some (ofUnits negative (n * unitsPerOne) 1) := by
  have value : ofLiteral { negative, significand := n, exponent := 0 } =
      ofUnits negative (n * unitsPerOne) 1 := ofLiteral_places (Nat.zero_le _) short
  have read : Literal.ofChars? (signText negative ++ Nat.toDigits 10 n) =
      some { negative, significand := n, exponent := 0 } := by
    rw [Literal.ofChars?_whole (fun _ => isDigit_of_mem_toDigits) Nat.toDigits_ne_nil,
      Nat.ofDigitChars_ten_toDigits]
  rw [← value]
  refine ofText?_of_literal (by rwa [String.toList_ofList]) ?_
  rwa [value]

theorem toString_int (z : Int) :
    toString z = String.ofList (signText (decide (z < 0)) ++ Nat.toDigits 10 z.natAbs) := by
  cases z with
  | ofNat n =>
    rw [Int.ofNat_eq_natCast, decide_eq_false (Int.not_lt.2 (Int.natCast_nonneg n))]
    exact Nat.toString_eq_ofList_toDigits
  | negSucc n =>
    rw [decide_eq_true (Int.negSucc_lt_zero n)]
    change "-" ++ (n + 1).repr = String.ofList (['-'] ++ Nat.toDigits 10 (n + 1))
    rw [Nat.repr_eq_ofList_toDigits, String.ofList_append]

theorem plain_toString_int {c : Char} {z : Int} (member : c ∈ (toString z).toList) : Plain c := by
  rw [toString_int, String.toList_ofList] at member
  rcases List.mem_append.1 member with sign | digit
  · exact plain_signText sign
  · exact .inl (isDigit_of_mem_toDigits digit)

theorem natAbs_signed (negative : Bool) (n : Nat) : (signed negative n).natAbs = n := by
  cases negative with
  | false => rfl
  | true => exact Int.natAbs_neg n

theorem signed_natAbs (n : Int) : signed (n < 0) n.natAbs = n := by
  rcases Int.lt_or_le n 0 with negative | nonneg
  · rw [signed, if_pos (decide_eq_true negative), Int.ofNat_natAbs_of_nonpos (Int.le_of_lt negative),
      Int.neg_neg]
  · rw [signed, if_neg (by simpa using nonneg), Int.natAbs_of_nonneg nonneg]

theorem decide_signed_lt_zero {n : Nat} (pos : 0 < n) :
    decide (signed negative n < 0) = negative := by
  cases negative with
  | true => exact decide_eq_true (by rw [signed, if_pos rfl]; omega)
  | false => exact decide_eq_false (by rw [signed, if_neg Bool.false_ne_true]; omega)

/-! ## Places that suffice -/

theorem ofUnits_units_mul {rank : Fin magnitudeCount} {den : Nat} (pos : 0 < den) :
    ofUnits negative (units rank * den) den = finite negative rank := by
  have same : nearestRank (units rank * den) den = rank := nearestRank_units_mul pos
  have represented : nearestRank (units rank * den) den < magnitudeCount := by
    rw [same]
    exact rank.isLt
  rw [ofUnits_eq, dif_pos represented]
  congr 1
  exact Fin.ext same

theorem exists_of_isWhole (whole : x.isWhole) :
    ∃ negative rank n, x = finite negative rank ∧ units rank = n * unitsPerOne := by
  cases x with
  | nan | infinite => cases whole
  | finite negative rank =>
    obtain ⟨n, multiple⟩ : unitsPerOne ∣ units rank := Nat.dvd_of_mod_eq_zero (beq_iff_eq.1 whole)
    exact ⟨negative, rank, n, rfl, multiple.trans (Nat.mul_comm _ _)⟩

/-- A whole number has no places to lose. -/
theorem toPlaces_of_isWhole (whole : x.isWhole) : x.toPlaces k = x := by
  obtain ⟨negative, rank, n, rfl, multiple⟩ := exists_of_isWhole whole
  have scaled : units rank * 10 ^ k = n * 10 ^ k * unitsPerOne := by
    rw [multiple, Nat.mul_right_comm]
  rw [toPlaces, scaled, roundQuotient_mul unitsPerOne_pos, ← scaled]
  exact ofUnits_units_mul (Nat.pow_pos (by decide))

/-- From one magnitude to the next it is less than a place, if the magnitude is not too large. -/
theorem gap_mul_lt {rank gap : Nat} (few : k ≤ 200)
    (moderate : units rank * 10 ^ k < 2 ^ 52 * unitsPerOne)
    (small : gap = 1 ∨ 2 ^ 52 * gap ≤ units rank) : gap * 10 ^ k < unitsPerOne := by
  rcases small with rfl | small
  · calc 1 * 10 ^ k ≤ 16 ^ k := by
          rw [Nat.one_mul]
          exact Nat.pow_le_pow_left (by decide) k
      _ = 2 ^ (4 * k) := (Nat.pow_mul 2 4 k).symm
      _ < 2 ^ (4 * k + 1) := Nat.pow_lt_pow_right (by decide) (Nat.lt_succ_self _)
      _ ≤ unitsPerOne := two_pow_le_unitsPerOne (by omega)
  · have scaled : 2 ^ 52 * (gap * 10 ^ k) ≤ units rank * 10 ^ k := by
      rw [← Nat.mul_assoc]
      exact Nat.mul_le_mul_right _ small
    exact Nat.lt_of_mul_lt_mul_left (Nat.lt_of_le_of_lt scaled moderate)

/-- What a moderate number is nearest to is off by less than half a place. -/
theorem off_of_nearest {rank n : Nat} (few : k ≤ 200)
    (moderate : units rank * 10 ^ k < 2 ^ 52 * unitsPerOne)
    (nearest : nearestRank (n * unitsPerOne) (10 ^ k) = rank) :
    2 * (n * unitsPerOne) < 2 * (units rank * 10 ^ k) + unitsPerOne ∧
      2 * (units rank * 10 ^ k) < 2 * (n * unitsPerOne) + unitsPerOne := by
  have pos : 0 < 10 ^ k := Nat.pow_pos (by decide)
  constructor
  · obtain ⟨gap, next, -, small⟩ := exists_units_succ rank
    have near := le_units_add_units (n * unitsPerOne) pos
    rw [nearest, next, ← Nat.add_assoc, Nat.add_mul, Nat.add_mul] at near
    have := gap_mul_lt few moderate small
    omega
  · cases rank with
    | zero =>
      have := unitsPerOne_pos
      rw [units_zero]
      omega
    | succ before =>
      obtain ⟨gap, next, -, small⟩ := exists_units_succ before
      have near := units_add_units_le pos nearest
      have lower : units before ≤ units (before + 1) := Nat.le_of_lt (units_lt_units_succ before)
      have := gap_mul_lt few moderate (small.imp_right (Nat.le_trans · lower))
      rw [next] at near ⊢
      rw [Nat.add_mul, Nat.add_mul] at near
      rw [Nat.add_mul]
      omega

/-- A number that is nearest to one of so many places is not changed by rounding to them, if it is
not too large for its neighbours to be less than a place apart. -/
theorem toPlaces_of_nearest {rank : Fin magnitudeCount} {n : Nat} (few : k ≤ 200)
    (moderate : units rank * 10 ^ k < 2 ^ 52 * unitsPerOne)
    (nearest : nearestRank (n * unitsPerOne) (10 ^ k) = rank) :
    (finite negative rank).toPlaces k = finite negative rank := by
  obtain ⟨above, below⟩ := off_of_nearest few moderate nearest
  have represented : nearestRank (n * unitsPerOne) (10 ^ k) < magnitudeCount := by
    rw [nearest]
    exact rank.isLt
  rw [toPlaces, roundQuotient_eq above below, ofUnits_eq, dif_pos represented]
  congr 1
  exact Fin.ext nearest

end PartsCatalog.Binary64
