import Mathlib.Data.List.Forall2
import PartsCatalog.Bounds
import PartsCatalog.Proofs.Quantity
import PartsCatalog.Requirement

/-!
# Commas and points

What number a text denotes, and whether it denotes one, is read off the text without the blanks
around it and with points in place of commas (`Text.pointed`).  So texts that are spelled alike in
this sense are read alike wherever a quantity is entered: in a field, as an end of a range, as a
stock and in a cell (`comma_is_as_good_as_point`).  Only a remark is kept in the words that were
entered, and a bound that is refused is named as it was entered.
-/

namespace PartsCatalog

namespace Text

variable {s t : String}

/-- A text without the blanks around it, and with points in place of commas. -/
def pointed (s : String) : String := (trim s).map fun c => if c = ',' then '.' else c

/-- Two texts differ in blanks around them and in commas for points, if at all. -/
def SpelledAlike (s t : String) : Prop := pointed s = pointed t

/-- Points in place of commas, one character at a time. -/
theorem pointed_eq_ofList (s : String) :
    pointed s = String.ofList ((trimChars s.toList).map fun c => if c = ',' then '.' else c) := by
  rw [pointed, trim, ← String.toList_inj, String.toList_map, String.toList_ofList,
    String.toList_ofList]

theorem spelledAlike_iff :
    SpelledAlike s t ↔
      (trimChars s.toList).map (fun c => if c = ',' then '.' else c) =
        (trimChars t.toList).map fun c => if c = ',' then '.' else c := by
  rw [SpelledAlike, pointed_eq_ofList, pointed_eq_ofList, String.ofList_inj]

instance (s t : String) : Decidable (SpelledAlike s t) := decidable_of_iff _ spelledAlike_iff.symm

/-- Points in place of commas leave nothing blank that was not blank before. -/
theorem isBlankText_iff_pointed : isBlankText s ↔ pointed s = "" := by
  rw [isBlankText_iff, pointed, ← String.toList_eq_nil_iff, ← String.toList_eq_nil_iff,
    String.toList_map, List.map_eq_nil_iff]

end Text

open Text

/-! ## Kinds of readings -/

/-- Two readings are of one kind: both find nothing, or both the same number, or both words. -/
inductive Quantity.SameKind : Option Quantity → Option Quantity → Prop
  | nothing : SameKind none none
  | number (x : Binary64) : SameKind (some (.numeric x)) (some (.numeric x))
  | words (s t : String) : SameKind (some (.text s)) (some (.text t))

/-! ## Texts that are spelled alike -/

namespace Text.SpelledAlike

variable {s t min min' max max' : String}

theorem isBlankText_iff (alike : SpelledAlike s t) : isBlankText s ↔ isBlankText t := by
  rw [isBlankText_iff_pointed, isBlankText_iff_pointed, alike]

theorem parseNumber?_eq (alike : SpelledAlike s t) :
    Quantity.parseNumber? s = Quantity.parseNumber? t := congrArg Binary64.ofText? alike

theorem sameKind (alike : SpelledAlike s t) :
    Quantity.SameKind (Quantity.ofInput? s) (Quantity.ofInput? t) := by
  rw [Quantity.ofInput?_eq, Quantity.ofInput?_eq, alike.parseNumber?_eq]
  by_cases blank : isBlankText s
  · rw [if_pos blank, if_pos (alike.isBlankText_iff.1 blank)]
    exact .nothing
  · rw [if_neg blank, if_neg (mt alike.isBlankText_iff.2 blank)]
    cases Quantity.parseNumber? t with
    | none => exact .words _ _
    | some x => exact .number x

/-- The ends of a range are the same, or both are refused as they were entered. -/
theorem readBound (alike : SpelledAlike s t) (bound : String) :
    (∃ read, Bounds.readBound bound s = .ok read ∧ Bounds.readBound bound t = .ok read) ∨
      Bounds.readBound bound s = .error (.boundUnreadable bound s) ∧
        Bounds.readBound bound t = .error (.boundUnreadable bound t) := by
  rw [Bounds.readBound, Bounds.readBound, alike.parseNumber?_eq]
  by_cases blank : isBlankText s
  · rw [if_pos blank, if_pos (alike.isBlankText_iff.1 blank)]
    exact .inl ⟨none, rfl, rfl⟩
  · rw [if_neg blank, if_neg (mt alike.isBlankText_iff.2 blank)]
    cases Quantity.parseNumber? t with
    | none => exact .inr ⟨rfl, rfl⟩
    | some x => exact .inl ⟨some x, rfl, rfl⟩

/-- Ranges are the same, or both are refused for the same end. -/
theorem bounds (alikeMin : SpelledAlike min min') (alikeMax : SpelledAlike max max') :
    (∃ range, Bounds.ofInput min max = .ok range ∧ Bounds.ofInput min' max' = .ok range) ∨
      (Bounds.ofInput min max = .error (.boundUnreadable "用量下限" min) ∧
        Bounds.ofInput min' max' = .error (.boundUnreadable "用量下限" min')) ∨
      Bounds.ofInput min max = .error (.boundUnreadable "用量上限" max) ∧
        Bounds.ofInput min' max' = .error (.boundUnreadable "用量上限" max') := by
  unfold Bounds.ofInput
  rcases alikeMin.readBound "用量下限" with ⟨least, here, there⟩ | ⟨here, there⟩
  · rw [here, there]
    rcases alikeMax.readBound "用量上限" with ⟨most, here, there⟩ | ⟨here, there⟩
    · rw [here, there]
      exact .inl ⟨_, rfl, rfl⟩
    · rw [here, there]
      exact .inr (.inr ⟨rfl, rfl⟩)
  · rw [here, there]
    exact .inr (.inl ⟨rfl, rfl⟩)

theorem readAmount_eq (alike : SpelledAlike s t) : Stock.readAmount s = Stock.readAmount t := by
  rw [Stock.readAmount, alike.parseNumber?_eq, Stock.readAmount]

/-- Fields for the stock that are spelled alike give the same stock. -/
theorem ofInputs_eq {inputs inputs' : List (EntityId × String)}
    (alike : List.Forall₂ (fun input input' => input.1 = input'.1 ∧ SpelledAlike input.2 input'.2)
      inputs inputs') :
    Stock.ofInputs inputs = Stock.ofInputs inputs' := by
  unfold Stock.ofInputs
  apply congrArg Table.ofPairs
  induction alike with
  | nil => rfl
  | cons first _ ih => exact congrArg₂ List.cons (Prod.ext first.1 first.2.readAmount_eq) ih

end Text.SpelledAlike

/-! ## All readers -/

/-- **A comma is as good as a point**, and blanks around a text are as good as none.  Texts that are
spelled alike denote the same number or none; a field for a quantity, or a cell that holds the text,
gives nothing for both of them, the same number, or words; a range has the same ends, or is refused
for the same end; and fields for the stock give the same stock.  A field gives nothing where it is
blank, a number where the text denotes it, which is a finite one then, and else the trimmed text. -/
theorem comma_is_as_good_as_point :
    (∀ s t, SpelledAlike s t →
      Quantity.parseNumber? s = Quantity.parseNumber? t ∧
      Quantity.isCalculableText s = Quantity.isCalculableText t ∧
      Quantity.SameKind (Quantity.ofInput? s) (Quantity.ofInput? t) ∧
      ∀ column, ∃ held held', (Cell.text s).toQuantity? column = .ok held ∧
        (Cell.text t).toQuantity? column = .ok held' ∧ Quantity.SameKind held held') ∧
    (∀ min min' max max', SpelledAlike min min' → SpelledAlike max max' →
      (∃ range, Bounds.ofInput min max = .ok range ∧ Bounds.ofInput min' max' = .ok range) ∨
      (Bounds.ofInput min max = .error (.boundUnreadable "用量下限" min) ∧
        Bounds.ofInput min' max' = .error (.boundUnreadable "用量下限" min')) ∨
      Bounds.ofInput min max = .error (.boundUnreadable "用量上限" max) ∧
        Bounds.ofInput min' max' = .error (.boundUnreadable "用量上限" max')) ∧
    (∀ inputs inputs' : List (EntityId × String),
      List.Forall₂ (fun input input' => input.1 = input'.1 ∧ SpelledAlike input.2 input'.2)
        inputs inputs' →
      Stock.ofInputs inputs = Stock.ofInputs inputs') ∧
    ∀ s,
      (Quantity.ofInput? s = none ↔ isBlankText s) ∧
      (∀ x, Quantity.ofInput? s = some (.numeric x) ↔ Quantity.parseNumber? s = some x) ∧
      (∀ x, Quantity.ofInput? s = some (.numeric x) → x.isFinite) ∧
      ∀ words, Quantity.ofInput? s = some (.text words) ↔
        words = trim s ∧ ¬ isBlankText s ∧ Quantity.parseNumber? s = none := by
  refine ⟨fun s t alike => ?_, fun _ _ _ _ => SpelledAlike.bounds,
    fun _ _ => SpelledAlike.ofInputs_eq, fun s => ?_⟩
  · have sameNumber := alike.parseNumber?_eq
    refine ⟨sameNumber, ?_, alike.sameKind, fun column => ⟨_, _, rfl, rfl, alike.sameKind⟩⟩
    rw [Quantity.isCalculableText, sameNumber, Quantity.isCalculableText]
  · exact ⟨Quantity.ofInput?_eq_none_iff, fun x => Quantity.ofInput?_eq_numeric_iff,
      fun x => Quantity.isFinite_of_ofInput?, fun words => Quantity.ofInput?_eq_text_iff⟩

/-- Two and a half is read from either spelling, as a range and as a stock too, and what has two
points in either spelling is words. -/
theorem two_and_a_half_has_two_spellings :
    SpelledAlike " 2,5" "2.5 " ∧ SpelledAlike "1,000,5" "1.000.5 " ∧
    (∃ x, Quantity.parseNumber? " 2,5" = some x ∧ Quantity.parseNumber? "2.5 " = some x ∧
      x.isFinite) ∧
    Quantity.SameKind (some (.text "1,000,5")) (some (.text "1.000.5")) ∧
    (∃ range, Bounds.ofInput " 2,5" "" = .ok range ∧ Bounds.ofInput "2.5 " " " = .ok range) ∧
    Stock.ofInputs [(7, " 2,5"), (8, "1,000,5")] = Stock.ofInputs [(7, "2.5 "), (8, "1.000.5 ")] := by
  have number : SpelledAlike " 2,5" "2.5 " := by decide
  have words : SpelledAlike "1,000,5" "1.000.5 " := by decide
  have blank : SpelledAlike "" " " := by decide
  have denoted : (Quantity.parseNumber? " 2,5").isSome := by decide +kernel
  have accepted : (Bounds.ofInput " 2,5" "").toOption.isSome := by decide +kernel
  have kept : "1,000,5" = trim "1,000,5" ∧ ¬ isBlankText "1,000,5" ∧
      Quantity.parseNumber? "1,000,5" = none := by decide +kernel
  have kept' : "1.000.5" = trim "1.000.5 " ∧ ¬ isBlankText "1.000.5 " ∧
      Quantity.parseNumber? "1.000.5 " = none := by decide +kernel
  obtain ⟨texts, ranges, stocks, fields⟩ := comma_is_as_good_as_point
  obtain ⟨x, read⟩ := Option.isSome_iff_exists.1 denoted
  have finite : x.isFinite := (fields _).2.2.1 x (((fields _).2.1 x).2 read)
  have sameKind := (texts _ _ words).2.2.1
  rw [((fields _).2.2.2 _).2 kept, ((fields _).2.2.2 _).2 kept'] at sameKind
  refine ⟨number, words, ⟨x, read, (texts _ _ number).1.symm.trans read, finite⟩, sameKind, ?_,
    stocks _ _ (.cons ⟨rfl, number⟩ (.cons ⟨rfl, words⟩ .nil))⟩
  rcases ranges _ _ _ _ number blank with same | ⟨refused, -⟩ | ⟨refused, -⟩
  · exact same
  · simp [refused, Except.toOption] at accepted
  · simp [refused, Except.toOption] at accepted

end PartsCatalog
