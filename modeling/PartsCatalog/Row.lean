import PartsCatalog.Cell.Basic
import PartsCatalog.Material

/-!
# Rows of query results

The database answers in flat rows.  A list of materials has one row for every combination of a
material, one of its names and one of the products it goes into, and a list of products one for
every material in it; where a side has nothing to offer, its columns are empty.
-/

namespace PartsCatalog

/-! ## Rows of lists -/

/-- A row of the list of materials. -/
structure MaterialRow where
  materialId : EntityId
  unitId : EntityId
  unitName : String
  description : Option String
  name : Option String
  isPrimary : Bool
  productId : Cell
  productName : Option String
  quantity : Cell
  quantityText : Option String

namespace MaterialRow

/-- A row with nothing but a material and its unit. -/
def new (materialId : EntityId) (unit : MeasureUnit) : MaterialRow :=
  { materialId, unitId := unit.id, unitName := unit.name, description := none, name := none
    isPrimary := false, productId := .null, productName := none, quantity := .null
    quantityText := none }

/-- The row with a name of the material. -/
def forName (row : MaterialRow) (name : String) (isPrimary : Bool) : MaterialRow :=
  { row with name := some name, isPrimary }

/-- The row with the description of the material. -/
def withDescription (row : MaterialRow) (description : String) : MaterialRow :=
  { row with description := some description }

/-- The row with a product that the material goes into. -/
def forProduct (row : MaterialRow) (productId : EntityId) (name : String) : MaterialRow :=
  { row with productId := .integer productId, productName := some name }

/-- The row with the number column of the quantity. -/
def withQuantity (row : MaterialRow) (quantity : Cell) : MaterialRow := { row with quantity }

/-- The row with the text column of the quantity. -/
def withQuantityText (row : MaterialRow) (text : String) : MaterialRow :=
  { row with quantityText := some text }

end MaterialRow

/-- A row of the list of products. -/
structure ProductRow where
  productId : EntityId
  name : String
  description : Option String
  materialId : Cell
  materialName : Option String
  unitId : Cell
  unitName : Option String
  quantity : Cell
  quantityText : Option String

namespace ProductRow

/-- A row with nothing but a product. -/
def new (productId : EntityId) (name : String) : ProductRow :=
  { productId, name, description := none, materialId := .null, materialName := none
    unitId := .null, unitName := none, quantity := .null, quantityText := none }

/-- The row with the description of the product. -/
def withDescription (row : ProductRow) (description : String) : ProductRow :=
  { row with description := some description }

/-- The row with a material of the product. -/
def forMaterial (row : ProductRow) (materialId : EntityId) (name : String) (unit : MeasureUnit) :
    ProductRow :=
  { row with
    materialId := .integer materialId
    materialName := some name
    unitId := .integer unit.id
    unitName := some unit.name }

/-- The row with the number column of the quantity. -/
def withQuantity (row : ProductRow) (quantity : Cell) : ProductRow := { row with quantity }

/-- The row with the text column of the quantity. -/
def withQuantityText (row : ProductRow) (text : String) : ProductRow :=
  { row with quantityText := some text }

end ProductRow

/-! ## Rows of single entries -/

/-- One material, without its names and products. -/
structure MaterialEntry where
  materialId : EntityId
  unitId : EntityId
  unitName : String
  description : Option String

/-- One name of a material. -/
structure MarkedName where
  name : String
  isPrimary : Bool
deriving DecidableEq

/-- One product that a material goes into. -/
structure UseRow where
  productId : EntityId
  name : String
  description : Option String
  quantity : Cell
  quantityText : Option String

/-- One product, without its materials. -/
structure ProductEntry where
  productId : EntityId
  name : String
  description : Option String
deriving DecidableEq

/-- One material of a product. -/
structure PartRow where
  materialId : EntityId
  materialName : String
  unitId : EntityId
  unitName : String
  description : Option String
  quantity : Cell
  quantityText : Option String

end PartsCatalog
