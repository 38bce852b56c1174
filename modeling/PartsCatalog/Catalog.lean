import PartsCatalog.Grouping
import PartsCatalog.Inventory.Rows
import PartsCatalog.Requirement
import PartsCatalog.Search
import PartsCatalog.Sorting

/-!
# The catalog

What the inventory shows: materials, products, units and files, filtered and sorted lists, search
results and reports.  Everything is put together from the rows of queries, so it shows the
inventory as it is at that moment.
-/

namespace PartsCatalog.Inventory

/-! ## Lists and single entries -/

/-- All materials. -/
def listMaterials (inv : Inventory) : Except Fault (List Material) := do
  groupMaterials (← inv.materialRows)

/-- All products. -/
def listProducts (inv : Inventory) : Except Fault (List Product) := do
  groupProducts (← inv.productRows)

/-- One material with its names and products. -/
def material (inv : Inventory) (id : EntityId) : Except Fault Material := do
  let entry ← inv.materialEntry id
  let names ← inv.namesOf id
  let uses ← inv.useRowsOf id
  entry.assemble names uses

/-- One product with its materials. -/
def product (inv : Inventory) (id : EntityId) : Except Fault Product := do
  let entry ← inv.productEntry id
  let parts ← inv.partRowsOf id
  entry.assemble parts

/-- All units. -/
def listUnits (inv : Inventory) : List MeasureUnit := inv.units.values

/-- The files of an owner. -/
def files (inv : Inventory) (owner : Owner) : Except Fault Attachments := do
  inv.checkOwner owner
  return (inv.attachmentsOf? owner).getD (.empty owner)

/-! ## Views -/

/-- The materials that pass a filter, sorted. -/
def viewMaterials (inv : Inventory) (filter : MaterialFilter) (sort : Sorting) :
    Except Fault (List Material) :=
  return sort.materials (filter.select (← inv.listMaterials))

/-- The products that pass a filter, sorted. -/
def viewProducts (inv : Inventory) (filter : ProductFilter) (sort : Sorting) :
    Except Fault (List Product) :=
  return sort.products (filter.select (← inv.listProducts))

/-- What a query finds. -/
def search (inv : Inventory) (query : String) (limit : Nat) : Except Fault Findings :=
  return Search.run query limit (← inv.listMaterials) (← inv.listProducts)

/-- What it takes to produce `count` pieces of a product. -/
def report (inv : Inventory) (productId : EntityId) (count : Nat) (stock : Stock) :
    Except Fault Report := do
  Report.ofProduct (← inv.product productId) count stock

end PartsCatalog.Inventory
