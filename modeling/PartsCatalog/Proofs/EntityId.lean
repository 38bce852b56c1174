import Mathlib.Data.List.Induction
import PartsCatalog.EntityId
import PartsCatalog.Proofs.Binary64.Text

/-!
# Identifiers in texts

A grammar of whole numbers in decimal digits that says which number a text denotes: every digit that
is added at the end makes the number ten times as large and is added to it (`DenotesNat`), and one
sign may stand in front (`DenotesInt`).  The readers accept exactly the texts of the grammar
(`readSigned?_eq_some_iff`), identifiers only as far as they have 64 bits
(`EntityId.ofText?_eq_some_iff`), and an identifier that is written in digits is read again
(`EntityId.written_toString`).
-/

namespace PartsCatalog

namespace Text

/-! ## Whole numbers -/

/-- Decimal digits, at least one of them, and the number they denote. -/
inductive DenotesNat : List Char → Nat → Prop
  | digit {d : Nat} (isDigit : d < 10) : DenotesNat [d.digitChar] d
  | append {cs : List Char} {n d : Nat} (before : DenotesNat cs n) (isDigit : d < 10) :
    DenotesNat (cs ++ [d.digitChar]) (10 * n + d)

/-- Decimal digits with an optional sign in front, and the integer they denote. -/
inductive DenotesInt : List Char → Int → Prop
  | unsigned {cs : List Char} {n : Nat} (digits : DenotesNat cs n) : DenotesInt cs n
  | plus {cs : List Char} {n : Nat} (digits : DenotesNat cs n) : DenotesInt ('+' :: cs) n
  | minus {cs : List Char} {n : Nat} (digits : DenotesNat cs n) : DenotesInt ('-' :: cs) (-n)

variable {c : Char} {cs : List Char} {n : Nat} {z : Int}

theorem isDigit_digitChar {d : Nat} (isDigit : d < 10) : d.digitChar.isDigit := by
  rw [Nat.isDigit_digitChar, decide_eq_true isDigit]

theorem exists_digitChar (isDigit : c.isDigit) : ∃ d < 10, d.digitChar = c := by
  obtain ⟨low, high⟩ : 48 ≤ c.toNat ∧ c.toNat ≤ 57 := Char.isDigit_iff_toNat.1 isDigit
  have small : c.toNat - 48 < 10 := by omega
  refine ⟨c.toNat - 48, small, Char.toNat_inj.1 ?_⟩
  rw [Nat.toNat_digitChar_of_lt_ten small]
  omega

theorem DenotesNat.isDigit (digits : DenotesNat cs n) : ∀ c ∈ cs, c.isDigit := by
  induction digits with
  | digit small => exact List.forall_mem_singleton.2 (isDigit_digitChar small)
  | append _ small ih =>
    exact List.forall_mem_append.2 ⟨ih, List.forall_mem_singleton.2 (isDigit_digitChar small)⟩

theorem DenotesNat.ne_nil (digits : DenotesNat cs n) : cs ≠ [] := by
  cases digits with
  | digit => exact List.cons_ne_nil _ _
  | append => exact List.append_ne_nil_of_right_ne_nil _ (List.cons_ne_nil _ _)

theorem DenotesInt.ne_nil (denotes : DenotesInt cs z) : cs ≠ [] := by
  cases denotes with
  | unsigned digits => exact digits.ne_nil
  | plus | minus => exact List.cons_ne_nil _ _

/-- Digits do not start with a sign. -/
theorem DenotesNat.ne_sign (digits : DenotesNat (c :: cs) n) : c ≠ '+' ∧ c ≠ '-' := by
  have isDigit := digits.isDigit c List.mem_cons_self
  constructor
  · rintro rfl
    exact absurd isDigit (by decide)
  · rintro rfl
    exact absurd isDigit (by decide)

/-- Digits denote the number that is read from them. -/
theorem DenotesNat.ofDigitChars_eq (digits : DenotesNat cs n) : Nat.ofDigitChars 10 cs 0 = n := by
  induction digits with
  | digit small => simp [Nat.ofDigitChars_cons_digitChar_of_lt_ten small]
  | append _ small ih =>
    rw [Nat.ofDigitChars_append, ih, Nat.ofDigitChars_cons_digitChar_of_lt_ten small,
      Nat.ofDigitChars_nil]

/-- Any digits denote a number. -/
theorem denotesNat_ofDigitChars (nonempty : cs ≠ []) (digits : ∀ c ∈ cs, c.isDigit) :
    DenotesNat cs (Nat.ofDigitChars 10 cs 0) := by
  induction cs using List.reverseRecOn with
  | nil => exact absurd rfl nonempty
  | append_singleton cs c ih =>
    obtain ⟨before, last⟩ := List.forall_mem_append.1 digits
    obtain ⟨d, small, rfl⟩ := exists_digitChar (last c List.mem_cons_self)
    rw [Nat.ofDigitChars_append, Nat.ofDigitChars_cons_digitChar_of_lt_ten small,
      Nat.ofDigitChars_nil]
    rcases List.eq_nil_or_concat' cs with rfl | ⟨_, _, rfl⟩
    · simpa using DenotesNat.digit small
    · exact .append (ih (by simp) before) small

theorem readDigits?_eq_some_iff : readDigits? cs = some n ↔ DenotesNat cs n := by
  have refused : (cs.isEmpty || !cs.all Char.isDigit) = true ↔
      ¬ (cs ≠ [] ∧ ∀ c ∈ cs, c.isDigit) := by
    rw [Bool.or_eq_true, List.isEmpty_iff, Bool.not_eq_true', ← Bool.not_eq_true, List.all_eq_true,
      not_and_or, not_not]
  rw [readDigits?]
  constructor
  · intro read
    split at read
    · cases read
    · next accepted =>
      obtain ⟨nonempty, digits⟩ := not_not.1 (mt refused.2 accepted)
      obtain rfl := Option.some.inj read
      exact denotesNat_ofDigitChars nonempty digits
  · intro digits
    rw [if_neg (mt refused.1 (not_not.2 ⟨digits.ne_nil, digits.isDigit⟩)), digits.ofDigitChars_eq]

/-! ## Signs -/

theorem denotesInt_minus_iff :
    DenotesInt ('-' :: cs) z ↔ ∃ n : Nat, DenotesNat cs n ∧ -(n : Int) = z := by
  constructor
  · intro denotes
    cases denotes with
    | unsigned digits => exact absurd rfl digits.ne_sign.2
    | minus digits => exact ⟨_, digits, rfl⟩
  · rintro ⟨n, digits, rfl⟩
    exact .minus digits

theorem denotesInt_plus_iff :
    DenotesInt ('+' :: cs) z ↔ ∃ n : Nat, DenotesNat cs n ∧ (n : Int) = z := by
  constructor
  · intro denotes
    cases denotes with
    | unsigned digits => exact absurd rfl digits.ne_sign.1
    | plus digits => exact ⟨_, digits, rfl⟩
  · rintro ⟨n, digits, rfl⟩
    exact .plus digits

theorem denotesInt_unsigned_iff (noMinus : ∀ ds, cs ≠ '-' :: ds) (noPlus : ∀ ds, cs ≠ '+' :: ds) :
    DenotesInt cs z ↔ ∃ n : Nat, DenotesNat cs n ∧ (n : Int) = z := by
  constructor
  · intro denotes
    cases denotes with
    | unsigned digits => exact ⟨_, digits, rfl⟩
    | plus => exact absurd rfl (noPlus _)
    | minus => exact absurd rfl (noMinus _)
  · rintro ⟨n, digits, rfl⟩
    exact .unsigned digits

theorem readSigned?_minus (cs : List Char) :
    readSigned? ('-' :: cs) = (readDigits? cs).map fun n : Nat => -(n : Int) := by
  rw [readSigned?]
  cases readDigits? cs <;> rfl

/-- Exactly the texts of the grammar are read, as the integers they denote. -/
theorem readSigned?_eq_some_iff : readSigned? cs = some z ↔ DenotesInt cs z := by
  unfold readSigned?
  split
  · next digits =>
    change readSigned? ('-' :: digits) = some z ↔ _
    rw [readSigned?_minus, denotesInt_minus_iff, Option.map_eq_some_iff]
    exact exists_congr fun n => and_congr_left' readDigits?_eq_some_iff
  · rw [denotesInt_plus_iff, Option.map_eq_some_iff]
    exact exists_congr fun n => and_congr_left' readDigits?_eq_some_iff
  · next noMinus noPlus =>
    rw [denotesInt_unsigned_iff noMinus noPlus, Option.map_eq_some_iff]
    exact exists_congr fun n => and_congr_left' readDigits?_eq_some_iff

/-- The digits of a number denote it. -/
theorem denotesNat_toDigits (n : Nat) : DenotesNat (Nat.toDigits 10 n) n := by
  have denotes := denotesNat_ofDigitChars (Nat.toDigits_ne_nil (b := 10) (n := n))
    fun c => isDigit_of_mem_toDigits
  rwa [Nat.ofDigitChars_ten_toDigits] at denotes

/-- The text of an integer denotes it. -/
theorem denotesInt_toString (z : Int) : DenotesInt (toString z).toList z := by
  rw [Binary64.toString_int, String.toList_ofList]
  by_cases negative : z < 0
  · have magnitude : -(z.natAbs : Int) = z := by omega
    rw [decide_eq_true negative]
    exact denotesInt_minus_iff.2 ⟨z.natAbs, denotesNat_toDigits _, magnitude⟩
  · have magnitude : (z.natAbs : Int) = z := by omega
    rw [decide_eq_false negative]
    have denotes := DenotesInt.unsigned (denotesNat_toDigits z.natAbs)
    rwa [magnitude] at denotes

end Text

namespace EntityId

variable {s : String} {id : EntityId}

/-- A text writes an identifier: it denotes the integer, and the integer has 64 bits. -/
structure Written (s : String) (id : EntityId) : Prop where
  denotes : Text.DenotesInt s.toList id
  inRange : EntityId.inRange id

theorem ofText?_eq_some_iff : ofText? s = some id ↔ Written s id := by
  rw [ofText?, Option.filter_eq_some_iff, Text.readSigned?_eq_some_iff]
  exact ⟨fun ⟨denotes, inRange⟩ => ⟨denotes, inRange⟩, fun ⟨denotes, inRange⟩ => ⟨denotes, inRange⟩⟩

theorem ofText?_eq_none_iff : ofText? s = none ↔ ∀ id, ¬ Written s id := by
  rw [Option.eq_none_iff_forall_ne_some]
  simp only [ne_eq, ofText?_eq_some_iff]

theorem written_toString (inRange : EntityId.inRange id) : Written (toString id) id :=
  ⟨Text.denotesInt_toString id, inRange⟩

end EntityId

end PartsCatalog
