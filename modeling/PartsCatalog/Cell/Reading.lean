import PartsCatalog.Fault
import PartsCatalog.Quantity

/-!
# Reading cells

What a cell means where an identifier or a quantity is expected.  The same identifier may come as an
integer, a text or a decimal; a cell that is none of these is a fault of the database.
-/

namespace PartsCatalog

namespace Cell

/-- The identifier in a cell; an empty cell holds none. -/
def toId? (column : String) : Cell → Except Fault (Option EntityId)
  | null => .ok none
  | integer id => .ok (some id)
  | text raw =>
    match EntityId.ofText? (Text.trim raw) with
    | some id => .ok (some id)
    | none => .error (.cellIdUnreadable column raw)
  | decimal value =>
    match value.whole? with
    | none => .error (.cellNotAnId column (.decimal value))
    | some id =>
      if EntityId.inRange id then .ok (some id) else .error (.cellIdOutOfRange column value)
  | real value => .error (.cellNotAnId column (.real value))

/-- The quantity in a cell that should hold a number; a text is read as a form field is. -/
def toQuantity? (column : String) : Cell → Except Fault (Option Quantity)
  | null => .ok none
  | integer value => .ok (some (.numeric (Binary64.ofInt value)))
  | real value =>
    if value.isFinite then .ok (some (.numeric value))
    else .error (.cellNumberInvalid column value)
  | decimal value =>
    match Quantity.ofDecimal? value with
    | some quantity => .ok (some quantity)
    | none => .error (.cellNumberOutOfRange column value)
  | text raw => .ok (Quantity.ofInput? raw)

end Cell

/-- The quantity of a row: the number column if it holds anything, and else the text column. -/
def readQuantity (number : Cell) (text : Option String) : Except Fault (Option Quantity) := do
  match ← number.toQuantity? "quantity" with
  | some quantity => return some quantity
  | none => return text.bind Quantity.ofInput?

/-- The text column, where it says the same as the quantity of its row. -/
def enteredText (quantity : Option Quantity) (text : Option String) : Option String :=
  match quantity, text with
  | some quantity, some text =>
    let text := Text.trim text
    match Quantity.ofInput? text with
    | some entered => if entered.same quantity then some text else none
    | none => none
  | _, _ => none

end PartsCatalog
