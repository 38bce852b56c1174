import PartsCatalog.Inventory.Basic

/-!
# Queries of the inventory

The rows that the tables answer, joined from the left: a material without names or without products
has a row all the same, with empty columns.
-/

namespace PartsCatalog

/-! ## Columns of a quantity -/

/-- The number column of a link's quantity. -/
def Link.numberColumn (link : Link) : Cell :=
  match link.quantity with
  | some (.numeric value) => .real value
  | _ => .null

/-- The text column of a link's quantity: what was entered. -/
def Link.textColumn (link : Link) : Option String :=
  match link.quantity with
  | some (.numeric _) => some link.input
  | some (.text words) => some words
  | none => none

namespace Inventory

/-- The entries of a list, or one gap where it has none. -/
def orGap {α : Type} (entries : List α) : List (Option α) :=
  if entries.isEmpty then [none] else entries.map some

/-! ## Lists -/

/-- The row for one name of a material and one of its links. -/
def materialRow (inv : Inventory) (start : MaterialRow) (name : Option MarkedName)
    (link : Option Link) : Except Fault MaterialRow := do
  let row :=
    match name with
    | some name => start.forName name.name name.isPrimary
    | none => start
  match link with
  | none => return row
  | some link =>
    let product ← inv.storedProduct link.productId
    return { row.forProduct link.productId product.name with
      quantity := link.numberColumn
      quantityText := link.textColumn }

/-- The rows of one material: one for every name and every link of each name. -/
def rowsOfMaterial (inv : Inventory) (id : EntityId) (record : StoredMaterial) :
    Except Fault (List MaterialRow) := do
  let unit ← inv.unit record.unitId
  let start := (MaterialRow.new id unit).withDescription record.description
  let pairs := (orGap (inv.storedNames id)).flatMap fun name =>
    (orGap (inv.usesOf id)).map fun link => (name, link)
  pairs.mapM fun (name, link) => inv.materialRow start name link

/-- The rows of all materials, by ascending identifier. -/
def materialRows (inv : Inventory) : Except Fault (List MaterialRow) :=
  return (← inv.materials.entries.mapM fun (id, record) => inv.rowsOfMaterial id record).flatten

/-- The row for one link of a product. -/
def productRow (inv : Inventory) (start : ProductRow) (link : Link) :
    Except Fault ProductRow := do
  let record ← inv.storedMaterial link.materialId
  let unit ← inv.unit record.unitId
  return { start.forMaterial link.materialId (inv.shownName link.materialId) unit with
    quantity := link.numberColumn
    quantityText := link.textColumn }

/-- The rows of one product: one for every link, or one without a material. -/
def rowsOfProduct (inv : Inventory) (id : EntityId) (record : StoredProduct) :
    Except Fault (List ProductRow) :=
  let start := (ProductRow.new id record.name).withDescription record.description
  match inv.partsOf id with
  | [] => .ok [start]
  | links => links.mapM (inv.productRow start)

/-- The rows of all products, by ascending identifier. -/
def productRows (inv : Inventory) : Except Fault (List ProductRow) :=
  return (← inv.products.entries.mapM fun (id, record) => inv.rowsOfProduct id record).flatten

/-! ## Single entries -/

/-- One material, without its names and products. -/
def materialEntry (inv : Inventory) (id : EntityId) : Except Fault MaterialEntry := do
  let record ← inv.storedMaterial id
  let unit ← inv.unit record.unitId
  return { materialId := id, unitId := unit.id, unitName := unit.name
           description := some record.description }

/-- The names of a material. -/
def namesOf (inv : Inventory) (id : EntityId) : Except Fault (List MarkedName) := do
  let _ ← inv.storedMaterial id
  return inv.storedNames id

/-- The row for a product that a material goes into. -/
def useRow (inv : Inventory) (link : Link) : Except Fault UseRow := do
  let product ← inv.storedProduct link.productId
  return { productId := link.productId, name := product.name
           description := some product.description, quantity := link.numberColumn
           quantityText := link.textColumn }

/-- The products that a material goes into. -/
def useRowsOf (inv : Inventory) (id : EntityId) : Except Fault (List UseRow) := do
  let _ ← inv.storedMaterial id
  (inv.usesOf id).mapM inv.useRow

/-- One product, without its materials. -/
def productEntry (inv : Inventory) (id : EntityId) : Except Fault ProductEntry := do
  let record ← inv.storedProduct id
  return { productId := id, name := record.name, description := some record.description }

/-- The row for a material of a product. -/
def partRow (inv : Inventory) (link : Link) : Except Fault PartRow := do
  let record ← inv.storedMaterial link.materialId
  let unit ← inv.unit record.unitId
  return { materialId := link.materialId, materialName := inv.shownName link.materialId
           unitId := unit.id, unitName := unit.name, description := some record.description
           quantity := link.numberColumn, quantityText := link.textColumn }

/-- The materials of a product. -/
def partRowsOf (inv : Inventory) (id : EntityId) : Except Fault (List PartRow) := do
  let _ ← inv.storedProduct id
  (inv.partsOf id).mapM inv.partRow

end Inventory

end PartsCatalog
