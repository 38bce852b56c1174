import PartsCatalog.Binary64.Reader
import PartsCatalog.Binary64.Text
import PartsCatalog.Decimal.Convert
import PartsCatalog.Text.Blank

/-!
# Quantities

How much of a material something takes: a number to compute with, or a remark in words such as
"as needed".  A text is a number exactly when it denotes a finite one, with a comma as good as a
point; there is no flag beside it.
-/

namespace PartsCatalog

/-- A quantity that people entered or a database holds. -/
inductive Quantity where
  | numeric (value : Binary64)
  | text (words : String)

namespace Quantity

/-! ## Reading -/

/-- The finite number that a text denotes, blanks around it aside and commas read as points. -/
def parseNumber? (s : String) : Option Binary64 :=
  Binary64.ofText? ((Text.trim s).map fun c => if c = ',' then '.' else c)

/-- Whether a text denotes a number to compute with. -/
def isCalculableText (s : String) : Bool := (parseNumber? s).isSome

/-- The quantity that a form field holds; a blank field holds none. -/
def ofInput? (s : String) : Option Quantity :=
  let trimmed := Text.trim s
  if trimmed.isEmpty then none
  else
    match parseNumber? trimmed with
    | some value => some (.numeric value)
    | none => some (.text trimmed)

/-- The quantity that a database decimal holds. -/
def ofDecimal? (d : Decimal) : Option Quantity :=
  (some d.toBinary64).filter Binary64.isFinite |>.map .numeric

/-! ## Reading off -/

/-- The number of a quantity; a remark has none. -/
def value? : Quantity → Option Binary64
  | numeric value => some value
  | text _ => none

/-- Whether a quantity is a number. -/
def isCalculable : Quantity → Bool
  | numeric _ => true
  | text _ => false

/-- Whether two quantities are the same number or the same remark. -/
def same : Quantity → Quantity → Bool
  | numeric x, numeric y => x.same y
  | text s, text t => s == t
  | _, _ => false

/-! ## Showing -/

/-- Whole numbers of fewer than 64 bits show without places, and all others with two. -/
def formatNumber (x : Binary64) : String :=
  if x.isWhole && x.truncate.natAbs < Nat.pow 2 63 then toString x.truncate else x.fixed 2

/-- A quantity as a list shows it. -/
def display : Quantity → String
  | numeric value => formatNumber value
  | text words => words

end Quantity

end PartsCatalog
