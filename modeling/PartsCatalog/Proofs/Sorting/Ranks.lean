import Mathlib.Data.String.Basic
import PartsCatalog.Proofs.Quantity
import PartsCatalog.Proofs.Sorting

/-!
# The order of each field

Which entry may stand before which in ascending order, told of the entries themselves: names and
units stand by their letters in lower case, quantities as `Quantity.Ranks` says, and identifiers by
their values.  A direction reads this forwards or backwards, and in both directions entries that
rank alike stand by ascending identifier (`Sorting.Direction.Precedes`).

The keys compare as the entries rank (`Material.compare_sortKey_iff`), unless a quantity is `nan`.
-/

namespace PartsCatalog

/-! ## Quantities -/

namespace Quantity

/-- The words of a quantity that is no number; of a missing quantity they are empty. -/
def words : Option Quantity → String
  | some (text words) => words
  | _ => ""

/-- One quantity may stand before another in ascending order. -/
inductive Ranks : Option Quantity → Option Quantity → Prop
  /-- Numbers stand by their values. -/
  | numbers {x y : Binary64} (atMost : x.atMost y) : Ranks (some (numeric x)) (some (numeric y))
  /-- A number stands before everything that is none. -/
  | numberFirst {x : Binary64} {other : Option Quantity} (noNumber : other.bind value? = none) :
    Ranks (some (numeric x)) other
  /-- What is no number stands by its words in lower case. -/
  | words {one other : Option Quantity} (noNumber : one.bind value? = none)
    (noNumber' : other.bind value? = none)
    (atMost : Text.lowercase (words one) ≤ Text.lowercase (words other)) : Ranks one other

theorem number_or_none (quantity : Option Quantity) :
    (∃ x, quantity = some (numeric x)) ∨ quantity.bind value? = none := by
  match quantity with
  | none | some (text _) => exact .inr rfl
  | some (numeric x) => exact .inl ⟨x, rfl⟩

end Quantity

/-! ## Entries -/

/-- One material may stand before another in ascending order of a field. -/
def Material.Ranks (field : Sorting.Field) (a b : Material) : Prop :=
  match field with
  | .name => Text.lowercase a.shownName ≤ Text.lowercase b.shownName
  | .unit => Text.lowercase a.unit.name ≤ Text.lowercase b.unit.name
  | .quantity => Quantity.Ranks a.quantity b.quantity
  | .id => a.id ≤ b.id

/-- One product may stand before another in ascending order of a field; products have no unit, and
their names stand for it. -/
def Product.Ranks (field : Sorting.Field) (a b : Product) : Prop :=
  match field with
  | .name | .unit => Text.lowercase a.name ≤ Text.lowercase b.name
  | .quantity => Quantity.Ranks a.quantity b.quantity
  | .id => a.id ≤ b.id

namespace Sorting

variable {α : Type}

/-- One entry stands before another in the direction of a list: it ranks before it or alike, and
alike only if its identifier is the smaller one. -/
def Direction.Precedes (direction : Sorting.Direction) (ranks : α → α → Prop) (id : α → EntityId)
    (a b : α) : Prop :=
  match direction with
  | .ascending => ranks a b ∧ (ranks b a → id a < id b)
  | .descending => ranks b a ∧ (ranks a b → id a < id b)

/-! ## Keys -/

namespace Key

theorem compares_ofQuantity_iff {quantity : Option Quantity} :
    (ofQuantity quantity).Compares ↔ quantity ≠ some (.numeric .nan) := by
  match quantity with
  | none | some (.text _) => simp [ofQuantity, ofText, Compares]
  | some (.numeric x) => simp [ofQuantity, Compares]

theorem compare_numbers_iff {x y : Binary64} (left : x ≠ .nan) (right : y ≠ .nan) :
    (number x).compare (number y) ≠ .gt ↔ x.atMost y := by
  have comparable : ∃ ordering, x.compare? y = some ordering := by
    cases x <;> cases y <;> first | exact absurd rfl left | exact absurd rfl right | exact ⟨_, rfl⟩
  obtain ⟨ordering, compared⟩ := comparable
  rw [compare, Binary64.atMost, Binary64.less, Binary64.same, compared]
  cases ordering <;> decide

theorem compare_words_iff {s t : String} : (ofText s).compare (ofText t) ≠ .gt ↔
    Text.lowercase s ≤ Text.lowercase t := compare_le_iff_le

theorem compare_ids_iff {i j : EntityId} : (id i).compare (id j) ≠ .gt ↔ i ≤ j := compare_le_iff_le

theorem ofQuantity_of_noNumber {quantity : Option Quantity}
    (noNumber : quantity.bind Quantity.value? = none) :
    ofQuantity quantity = ofText (Quantity.words quantity) := by
  match quantity with
  | none | some (.text _) => rfl

/-- Quantities are compared as they rank. -/
theorem compare_ofQuantity_iff {one other : Option Quantity} (left : (ofQuantity one).Compares)
    (right : (ofQuantity other).Compares) :
    (ofQuantity one).compare (ofQuantity other) ≠ .gt ↔ Quantity.Ranks one other := by
  rcases Quantity.number_or_none one with ⟨x, rfl⟩ | noNumber <;>
    rcases Quantity.number_or_none other with ⟨y, rfl⟩ | noNumber'
  · refine (compare_numbers_iff left right).trans ⟨.numbers, fun ranks => ?_⟩
    cases ranks with
    | numbers atMost => exact atMost
    | numberFirst noNumber => cases noNumber
    | words noNumber => cases noNumber
  · rw [ofQuantity_of_noNumber noNumber']
    exact iff_of_true nofun (.numberFirst noNumber')
  · rw [ofQuantity_of_noNumber noNumber]
    refine iff_of_false (fun notGreater => notGreater rfl) fun ranks => ?_
    cases ranks with
    | numbers => cases noNumber
    | numberFirst => cases noNumber
    | words _ isNumber => cases isNumber
  · rw [ofQuantity_of_noNumber noNumber, ofQuantity_of_noNumber noNumber', compare_words_iff]
    refine ⟨.words noNumber noNumber', fun ranks => ?_⟩
    cases ranks with
    | numbers => cases noNumber
    | numberFirst => cases noNumber
    | words _ _ atMost => exact atMost

theorem compare_swap {a b : Sorting.Key} (left : a.Compares) (right : b.Compares) :
    (a.compare b).swap = b.compare a := by
  rw [compare_eq left right, compare_eq right left]
  exact Std.OrientedCmp.eq_swap.symm

/-- Neither of two keys is greater only if they compare as equal. -/
theorem compare_eq_of_ne_gt {a b : Sorting.Key} (left : a.Compares) (right : b.Compares)
    (notGreater : a.compare b ≠ .gt) (notLess : b.compare a ≠ .gt) : a.compare b = .eq := by
  rw [← compare_swap left right] at notLess
  cases compared : a.compare b with
  | lt => exact absurd (congrArg Ordering.swap compared) notLess
  | eq => rfl
  | gt => exact absurd compared notGreater

end Key

/-- Entries in the order of their keys stand as they rank. -/
theorem precedes_of_ordered {c : Sorting} {key : α → Sorting.Key} {ranks : α → α → Prop}
    {id : α → EntityId} {a b : α} (left : (key a).Compares) (right : (key b).Compares)
    (upwards : (key a).compare (key b) ≠ .gt ↔ ranks a b)
    (downwards : (key b).compare (key a) ≠ .gt ↔ ranks b a)
    (ordered : Ordered c.compareKeys key (fun a b => id a < id b) a b) :
    c.direction.Precedes ranks id a b := by
  have tied (before : ranks a b) (after : ranks b a) : (key a).compare (key b) = .eq :=
    Key.compare_eq_of_ne_gt left right (upwards.2 before) (downwards.2 after)
  obtain ⟨notGreater, earlier⟩ := ordered
  obtain ⟨field, direction⟩ := c
  cases direction with
  | ascending =>
    have before : ranks a b := upwards.1 notGreater
    exact ⟨before, fun after => earlier (tied before after)⟩
  | descending =>
    have after : ranks b a := by
      rw [compareKeys, Key.compare_swap left right] at notGreater
      exact downwards.1 notGreater
    exact ⟨after, fun before => earlier (congrArg Ordering.swap (tied before after))⟩

end Sorting

/-! ## Lists -/

theorem Material.compares_sortKey {m : Material} (number : m.quantity ≠ some (.numeric .nan))
    (field : Sorting.Field) : (m.sortKey field).Compares := by
  cases field with
  | name | unit | id => exact trivial
  | quantity => exact Sorting.Key.compares_ofQuantity_iff.2 number

theorem Product.compares_sortKey {p : Product} (number : p.quantity ≠ some (.numeric .nan))
    (field : Sorting.Field) : (p.sortKey field).Compares := by
  cases field with
  | name | unit | id => exact trivial
  | quantity => exact Sorting.Key.compares_ofQuantity_iff.2 number

/-- The keys of materials compare as the materials rank. -/
theorem Material.compare_sortKey_iff {field : Sorting.Field} {a b : Material}
    (left : (a.sortKey field).Compares) (right : (b.sortKey field).Compares) :
    (a.sortKey field).compare (b.sortKey field) ≠ .gt ↔ a.Ranks field b := by
  cases field with
  | name | unit => exact Sorting.Key.compare_words_iff
  | quantity => exact Sorting.Key.compare_ofQuantity_iff left right
  | id => exact Sorting.Key.compare_ids_iff

/-- The keys of products compare as the products rank. -/
theorem Product.compare_sortKey_iff {field : Sorting.Field} {a b : Product}
    (left : (a.sortKey field).Compares) (right : (b.sortKey field).Compares) :
    (a.sortKey field).compare (b.sortKey field) ≠ .gt ↔ a.Ranks field b := by
  cases field with
  | name | unit => exact Sorting.Key.compare_words_iff
  | quantity => exact Sorting.Key.compare_ofQuantity_iff left right
  | id => exact Sorting.Key.compare_ids_iff

end PartsCatalog
