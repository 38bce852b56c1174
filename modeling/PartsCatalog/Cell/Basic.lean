import PartsCatalog.Binary64.Text
import PartsCatalog.Decimal.Basic
import PartsCatalog.Text.Quoted

/-!
# Cells

The value of one column of a query result.  The database types its cells one by one, so the same
column may hold a number in one row and a text in the next.
-/

namespace PartsCatalog

/-- The value of a cell. -/
inductive Cell where
  | null
  | integer (value : Int)
  | real (value : Binary64)
  | decimal (value : Decimal)
  | text (value : String)

namespace Cell

instance : Inhabited Cell := ⟨null⟩

/-- Whether a cell is empty. -/
def isNull : Cell → Bool
  | null => true
  | _ => false

/-- A cell as a message shows it: its type and its value. -/
def describe : Cell → String
  | null => "Null"
  | integer value => s!"Integer({value})"
  | real value => s!"Real({value.cellText})"
  | decimal value => s!"Decimal({value.text})"
  | text value => s!"Text({Text.quote value})"

end Cell

end PartsCatalog
