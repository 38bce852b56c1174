import PartsCatalog.Bounds
import PartsCatalog.Material
import PartsCatalog.Text.Find
import PartsCatalog.Text.Split

/-!
# Filters

A filter is a set of criteria, each of which may be left open.  An entry passes when it meets every
criterion that is set; what passes stays in order.
-/

namespace PartsCatalog

/-! ## Lists of identifiers -/

/-- The items of a list in a form field: the text between commas, trimmed, blanks left out. -/
def idItems (raw : String) : List String :=
  ((Text.split ',' raw).map Text.trim).filter (!·.isEmpty)

/-- The identifier that an item of a list denotes. -/
def readIdItem (item : String) : Except Fault EntityId :=
  match EntityId.ofText? item with
  | some id => .ok id
  | none => .error (.idUnreadable item)

/-- The identifiers in a form field. -/
def readIdList (raw : String) : Except Fault (List EntityId) := (idItems raw).mapM readIdItem

/-! ## Materials -/

/-- Whether one of the names or the description of a material holds a lower-case needle. -/
def Material.holdsWords (m : Material) (needle : String) : Bool :=
  (m.names ++ [m.primaryName, m.description]).any (Text.holdsWords needle)

/-- Criteria for materials. -/
structure MaterialFilter where
  /-- Words that a name or the description holds. -/
  query : Option String
  /-- Only materials with a primary name. -/
  primaryOnly : Bool
  /-- Products of which one uses the material; any if there are none. -/
  productIds : List EntityId
  /-- Units of which one is the material's; any if there are none. -/
  unitIds : List EntityId
  /-- Bounds of the quantity. -/
  range : Option Bounds

namespace MaterialFilter

/-- The filter without criteria. -/
def none : MaterialFilter :=
  { query := .none, primaryOnly := false, productIds := [], unitIds := [], range := .none }

/-- The words to look for, if there are any. -/
def words? (f : MaterialFilter) : Option String := f.query.bind Text.queryWords?

/-- The bounds of the quantity, if there are any. -/
def bounds? (f : MaterialFilter) : Option Bounds := f.range.filter (·.boundsAnything)

/-- Whether no criterion is set. -/
def isEmpty (f : MaterialFilter) : Bool :=
  f.words?.isNone && !f.primaryOnly && f.productIds.isEmpty && f.unitIds.isEmpty
    && f.bounds?.isNone

/-- The criterion of the query. -/
def meetsQuery (f : MaterialFilter) (m : Material) : Bool := f.words?.all m.holdsWords

/-- The criterion of the primary name. -/
def meetsPrimary (f : MaterialFilter) (m : Material) : Bool := !f.primaryOnly || m.hasPrimaryName

/-- The criterion of the products. -/
def meetsProducts (f : MaterialFilter) (m : Material) : Bool :=
  f.productIds.isEmpty || m.goesIntoAny f.productIds

/-- The criterion of the units. -/
def meetsUnits (f : MaterialFilter) (m : Material) : Bool :=
  f.unitIds.isEmpty || f.unitIds.contains m.unit.id

/-- The criterion of the quantity.  A material without a number is in no range. -/
def meetsRange (f : MaterialFilter) (m : Material) : Bool :=
  f.bounds?.all fun range => m.amount?.any range.contains

/-- Whether a material meets all criteria. -/
def accepts (f : MaterialFilter) (m : Material) : Bool :=
  f.meetsQuery m && f.meetsPrimary m && f.meetsProducts m && f.meetsUnits m && f.meetsRange m

/-- The materials that pass. -/
def select (f : MaterialFilter) (materials : List Material) : List Material :=
  if f.isEmpty then materials else materials.filter f.accepts

end MaterialFilter

/-! ## Products -/

/-- Criteria for products. -/
structure ProductFilter where
  /-- Words that the name holds. -/
  nameContains : Option String
  /-- Materials of which the product uses one; any if there are none. -/
  materialIds : List EntityId

namespace ProductFilter

/-- The filter without criteria. -/
def none : ProductFilter := { nameContains := .none, materialIds := [] }

/-- The words to look for, if there are any. -/
def words? (f : ProductFilter) : Option String := f.nameContains.bind Text.queryWords?

/-- Whether no criterion is set. -/
def isEmpty (f : ProductFilter) : Bool := f.words?.isNone && f.materialIds.isEmpty

/-- The criterion of the name. -/
def meetsName (f : ProductFilter) (p : Product) : Bool :=
  f.words?.all fun needle => Text.holdsWords needle p.name

/-- The criterion of the materials. -/
def meetsMaterials (f : ProductFilter) (p : Product) : Bool :=
  f.materialIds.isEmpty || p.takesAny f.materialIds

/-- Whether a product meets all criteria. -/
def accepts (f : ProductFilter) (p : Product) : Bool := f.meetsName p && f.meetsMaterials p

/-- The products that pass. -/
def select (f : ProductFilter) (products : List Product) : List Product :=
  if f.isEmpty then products else products.filter f.accepts

end ProductFilter

end PartsCatalog
