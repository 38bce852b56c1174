import PartsCatalog.Cell.Reading
import PartsCatalog.Row

/-!
# Grouping rows

Flat rows become materials with their names and products, and products with their materials.  Every
identifier gives one entry, at the place of its first row; what an entry can have only once comes
from that row, and what it has many of is collected from all its rows, first occurrences first.

A row that cannot be read is a fault, also where its content would not be used; the first such row
decides.
-/

namespace PartsCatalog

/-! ## Materials -/

/-- The material with a name from a row.  The first name that is marked becomes the primary one. -/
def Material.addMarked (m : Material) (name : MarkedName) : Material :=
  if name.name.isEmpty then m
  else
    let m := m.addName name.name
    if name.isPrimary && !m.hasPrimaryName then { m with primaryName := name.name } else m

namespace MaterialRow

/-- The product that a row speaks of, with the quantity of the row. -/
def product? (row : MaterialRow) (quantity : Option Quantity) : Except Fault (Option Product) := do
  match ← row.productId.toId? "product_id", row.productName with
  | none, _ => return none
  | some id, some name => return some ((Product.new id name).withQuantity quantity)
  | some _, none => throw (.productNameMissing row.materialId)

/-- The material that the first row of an identifier starts. -/
def start (row : MaterialRow) (quantity : Option Quantity) : Material :=
  { Material.new row.materialId { id := row.unitId, name := row.unitName } with
    description := row.description.getD ""
    quantity
    quantityInput := enteredText quantity row.quantityText }

/-- The material with the name and the product of a row. -/
def merge (row : MaterialRow) (product : Option Product) (m : Material) : Material :=
  let m :=
    match row.name with
    | some name => m.addMarked { name, isPrimary := row.isPrimary }
    | none => m
  match product with
  | some product => m.addProduct product
  | none => m

/-- Adds a row to the materials of the rows before it. -/
def addTo (materials : List Material) (row : MaterialRow) : Except Fault (List Material) := do
  let quantity ← readQuantity row.quantity row.quantityText
  let product ← row.product? quantity
  return updateOrAppend Material.id row.materialId (row.merge product)
    (row.merge product (row.start quantity)) materials

end MaterialRow

/-- The materials of a list of rows. -/
def groupMaterials (rows : List MaterialRow) : Except Fault (List Material) :=
  rows.foldlM MaterialRow.addTo []

/-! ## Products -/

/-- The product with one more material, unless a material of that identifier is there. -/
def Product.addMaterial (p : Product) (m : Material) : Product :=
  if (p.material? m.id).isSome then p else { p with materials := p.materials ++ [m] }

namespace ProductRow

/-- The material that a row speaks of. -/
def material? (row : ProductRow) : Except Fault (Option Material) := do
  match ← row.materialId.toId? "material_id" with
  | none => return none
  | some id =>
    match ← row.unitId.toId? "unit_id" with
    | none => throw (.materialUnitMissing row.productId id)
    | some unitId =>
      let quantity ← readQuantity row.quantity row.quantityText
      let m := Material.new id { id := unitId, name := row.unitName.getD "" }
      let m := { m with quantity, quantityInput := enteredText quantity row.quantityText }
      match row.materialName with
      | some name => return some (m.markPrimary name)
      | none => return some m

/-- The product that the first row of an identifier starts. -/
def start (row : ProductRow) : Product :=
  (Product.new row.productId row.name).withDescription (row.description.getD "")

/-- The product with the material of a row. -/
def merge (material : Option Material) (p : Product) : Product :=
  match material with
  | some m => p.addMaterial m
  | none => p

/-- Adds a row to the products of the rows before it. -/
def addTo (products : List Product) (row : ProductRow) : Except Fault (List Product) := do
  let material ← row.material?
  return updateOrAppend Product.id row.productId (merge material) (merge material row.start)
    products

end ProductRow

/-- The products of a list of rows. -/
def groupProducts (rows : List ProductRow) : Except Fault (List Product) :=
  rows.foldlM ProductRow.addTo []

/-! ## Single entries -/

/-- The product of a row about a material's use. -/
def UseRow.product (row : UseRow) : Except Fault Product := do
  let quantity ← readQuantity row.quantity row.quantityText
  return ((Product.new row.productId row.name).withDescription
    (row.description.getD "")).withQuantity quantity

/-- One material with its names and products. -/
def MaterialEntry.assemble (entry : MaterialEntry) (names : List MarkedName)
    (uses : List UseRow) : Except Fault Material := do
  let m := Material.new entry.materialId { id := entry.unitId, name := entry.unitName }
  let m := m.withDescription (entry.description.getD "")
  let m := names.foldl Material.addMarked m
  uses.foldlM (fun m row => return m.addProduct (← row.product)) m

/-- The material of a row about a product's part. -/
def PartRow.material (row : PartRow) : Except Fault Material := do
  let quantity ← readQuantity row.quantity row.quantityText
  let m := Material.new row.materialId { id := row.unitId, name := row.unitName }
  let m := (m.markPrimary row.materialName).withDescription (row.description.getD "")
  return { m with quantity, quantityInput := enteredText quantity row.quantityText }

/-- Adds a part to a product, unless a material of that identifier is there. -/
def PartRow.addTo (p : Product) (row : PartRow) : Except Fault Product := do
  if (p.material? row.materialId).isSome then return p
  return p.addMaterial (← row.material)

/-- One product with its materials. -/
def ProductEntry.assemble (entry : ProductEntry) (parts : List PartRow) :
    Except Fault Product :=
  parts.foldlM PartRow.addTo
    ((Product.new entry.productId entry.name).withDescription (entry.description.getD ""))

end PartsCatalog
