import PartsCatalog.Cell.Reading
import PartsCatalog.Proofs.Text.Blank

/-!
# Laws of quantities

A field that is blank holds no quantity, a text that denotes a number holds this number, which is
finite, and any other text is a remark and holds itself, trimmed (`ofInput?_eq`).  So the columns
that a link shows read back as the link's quantity (`readQuantity_columns`, in the module of the
rows).  Whether the columns of a row can be read is decided by the number column alone
(`readQuantity_eq`).
-/

namespace PartsCatalog

namespace Binary64

/-- A finite number equals itself; only `nan` does not. -/
theorem same_self_of_isFinite {x : Binary64} (finite : x.isFinite) : x.same x := by
  cases x with
  | nan => cases finite
  | infinite negative => cases finite
  | finite negative rank => simp [same, compare?, order?]

/-- Numbers of one rank are the same if they have one sign, or are zero. -/
theorem same_finite {s t : Bool} {rank : Fin magnitudeCount} (sameSign : 0 < rank.val → s = t) :
    (finite s rank).same (finite t rank) := by
  rcases Nat.eq_zero_or_pos rank.val with zero | pos
  · cases s <;> cases t <;> simp [same, compare?, order?, zero]
  · rw [sameSign pos]
    exact same_self_of_isFinite rfl

theorem isFinite_of_ofText? {s : String} {x : Binary64} (read : ofText? s = some x) :
    x.isFinite := (Option.filter_eq_some_iff.1 read).2

end Binary64

namespace Quantity

variable {s : String} {x : Binary64} {words : String}

@[simp] theorem ofInput?_trim (s : String) : ofInput? (Text.trim s) = ofInput? s := by
  simp only [ofInput?, Text.trim_trim]

theorem parseNumber?_trim (s : String) : parseNumber? (Text.trim s) = parseNumber? s := by
  rw [parseNumber?, Text.trim_trim, parseNumber?]

theorem parseNumber?_of_blank (blank : Text.isBlankText s) : parseNumber? s = none := by
  have nothing : "".map (fun c => if c = ',' then '.' else c) = "" := by
    rw [← String.toList_eq_nil_iff, String.toList_map]
    rfl
  rw [parseNumber?, Text.isBlankText_iff.1 blank, nothing]
  rfl

/-- A field that is not blank holds the number that its text denotes, and its words if there is no
such number. -/
theorem ofInput?_eq (s : String) :
    ofInput? s =
      if Text.isBlankText s then none
      else some ((parseNumber? s).elim (.text (Text.trim s)) .numeric) := by
  rw [ofInput?, parseNumber?_trim]
  by_cases blank : Text.isBlankText s
  · rw [if_pos blank]
    exact if_pos blank
  · rw [if_neg blank]
    apply (if_neg blank).trans
    cases parseNumber? s <;> rfl

/-- Only a blank field denotes no quantity. -/
theorem ofInput?_eq_none_iff : ofInput? s = none ↔ Text.isBlankText s := by
  rw [ofInput?_eq]
  by_cases blank : Text.isBlankText s <;> simp [blank]

theorem ofInput?_eq_numeric_iff : ofInput? s = some (.numeric x) ↔ parseNumber? s = some x := by
  rw [ofInput?_eq]
  by_cases blank : Text.isBlankText s
  · simp [blank, parseNumber?_of_blank blank]
  · cases parseNumber? s <;> simp [blank]

theorem ofInput?_eq_text_iff :
    ofInput? s = some (.text words) ↔
      words = Text.trim s ∧ ¬ Text.isBlankText s ∧ parseNumber? s = none := by
  rw [ofInput?_eq]
  by_cases blank : Text.isBlankText s
  · simp [blank]
  · cases parseNumber? s <;> simp [blank, eq_comm]

theorem isFinite_of_ofInput? (read : ofInput? s = some (.numeric x)) : x.isFinite :=
  Binary64.isFinite_of_ofText? (ofInput?_eq_numeric_iff.1 read)

theorem eq_trim_of_ofInput? (read : ofInput? s = some (.text words)) : words = Text.trim s :=
  (ofInput?_eq_text_iff.1 read).1

end Quantity

/-! ## Columns -/

/-- The quantity that the columns of a row state, as far as they can be read: the number if there is
one, and else the text. -/
def statedQuantity (number : Cell) (text : Option String) : Option Quantity :=
  (number.toQuantity? "quantity").toOption.join.or (text.bind Quantity.ofInput?)

theorem readQuantity_eq (number : Cell) (text : Option String) :
    readQuantity number text =
      (number.toQuantity? "quantity").map fun _ => statedQuantity number text := by
  unfold readQuantity statedQuantity
  cases number.toQuantity? "quantity" with
  | error fault => rfl
  | ok quantity => cases quantity <;> rfl

end PartsCatalog
