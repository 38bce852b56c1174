import PartsCatalog.Material
import PartsCatalog.Text.Lowercase

/-!
# Sorting

Lists are sorted by one field, upwards or downwards.  Every entry has a key (`Sorting.Key`), and the
order of the keys decides; entries with equal keys keep their order in both directions.

Among quantities all numbers come before all remarks, and an entry without a quantity sorts as an
empty remark.
-/

namespace PartsCatalog

/-- The field by which a list is sorted. -/
inductive Sorting.Field where
  | name
  | unit
  | quantity
  | id
deriving DecidableEq

/-- The direction in which a list is sorted. -/
inductive Sorting.Direction where
  | ascending
  | descending
deriving DecidableEq

/-- How a list is sorted. -/
structure Sorting where
  field : Sorting.Field
  direction : Sorting.Direction
deriving DecidableEq

/-! ## Reading -/

namespace Sorting.Field

/-- The name of a field. -/
def label : Sorting.Field → String
  | name => "name"
  | unit => "unit"
  | quantity => "quantity"
  | id => "id"

/-- The field that a text names; a text that names none means the name. -/
def ofText (s : String) : Sorting.Field :=
  match Text.lowercase (Text.trim s) with
  | "unit" => unit
  | "quantity" => quantity
  | "id" => id
  | _ => name

end Sorting.Field

namespace Sorting.Direction

/-- The name of a direction. -/
def label : Sorting.Direction → String
  | ascending => "asc"
  | descending => "desc"

/-- Downwards for `desc` in any case of its letters, and upwards for everything else. -/
def ofText (s : String) : Sorting.Direction :=
  if (Text.trim s).map Char.toLower = "desc" then descending else ascending

end Sorting.Direction

namespace Sorting

/-- Upwards by name. -/
def usual : Sorting := { field := .name, direction := .ascending }

/-- The sorting that a field and a direction give. -/
def ofParts (field direction : String) : Sorting :=
  { field := .ofText field, direction := .ofText direction }

/-- The sorting that one text gives: a field, with a minus sign in front for downwards. -/
def ofText (s : String) : Sorting :=
  match (Text.trim s).toList with
  | '-' :: field => { field := .ofText (String.ofList field), direction := .descending }
  | field => { field := .ofText (String.ofList field), direction := .ascending }

end Sorting

/-! ## Keys -/

/-- What entries are compared by. -/
inductive Sorting.Key where
  | id (value : Int)
  | number (value : Binary64)
  | words (lower : String)

namespace Sorting.Key

/-- The key of a text, with no regard to case. -/
def ofText (s : String) : Sorting.Key := words (Text.lowercase s)

/-- The key of a quantity. -/
def ofQuantity : Option Quantity → Sorting.Key
  | some (.numeric value) => number value
  | some (.text remark) => ofText remark
  | none => ofText ""

/-- How two keys compare.  Numbers that do not compare count as equal. -/
def compare : Sorting.Key → Sorting.Key → Ordering
  | id a, id b => Ord.compare a b
  | id _, _ => .lt
  | number _, id _ => .gt
  | number x, number y => (x.compare? y).getD .eq
  | number _, words _ => .lt
  | words s, words t => Ord.compare s t
  | words _, _ => .gt

end Sorting.Key

/-- The key of a material under a field. -/
def Material.sortKey (field : Sorting.Field) (m : Material) : Sorting.Key :=
  match field with
  | .name => .ofText m.shownName
  | .unit => .ofText m.unit.name
  | .quantity => .ofQuantity m.quantity
  | .id => .id m.id

/-- The key of a product under a field; having no unit, products are sorted by name instead. -/
def Product.sortKey (field : Sorting.Field) (p : Product) : Sorting.Key :=
  match field with
  | .name => .ofText p.name
  | .unit => .ofText p.name
  | .quantity => .ofQuantity p.quantity
  | .id => .id p.id

/-! ## Sorting -/

/-- Puts an entry before the first one that may stand behind it. -/
def insertSorted {α : Type} (mayPrecede : α → α → Bool) (x : α) : List α → List α
  | [] => [x]
  | y :: ys => if mayPrecede x y then x :: y :: ys else y :: insertSorted mayPrecede x ys

/-- Sorts a list by insertion, from its end to its start. -/
def sortBy {α : Type} (mayPrecede : α → α → Bool) : List α → List α
  | [] => []
  | x :: xs => insertSorted mayPrecede x (sortBy mayPrecede xs)

namespace Sorting

/-- How two keys compare in the direction of a list. -/
def compareKeys (c : Sorting) (a b : Sorting.Key) : Ordering :=
  match c.direction with
  | .ascending => a.compare b
  | .descending => (a.compare b).swap

/-- Sorts entries by their keys, each of which is computed once. -/
def sortOn {α : Type} (c : Sorting) (key : α → Sorting.Key) (entries : List α) : List α :=
  (sortBy (fun x y => c.compareKeys x.1 y.1 != .gt)
    (entries.map fun entry => (key entry, entry))).map (·.2)

/-- Sorts materials. -/
def materials (c : Sorting) (materials : List Material) : List Material :=
  c.sortOn (Material.sortKey c.field) materials

/-- Sorts products. -/
def products (c : Sorting) (products : List Product) : List Product :=
  c.sortOn (Product.sortKey c.field) products

end Sorting

end PartsCatalog
