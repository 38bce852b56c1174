import PartsCatalog.Attachment
import PartsCatalog.Row
import PartsCatalog.Table

/-!
# The inventory

What the catalog holds, kept in tables: units, materials and their names, products, the links
between products and materials, and the attached files.  Everything refers to everything else by
identifier, and one counter gives out the identifiers of all kinds, so that none is used twice.

The lookups of this module answer a fault that names the identifier where it is not there.  The
updates check nothing: what makes them sound is up to the actions that use them.
-/

namespace PartsCatalog

/-! ## Entries -/

/-- What is kept of a material, apart from its names. -/
structure StoredMaterial where
  unitId : EntityId
  description : String
deriving DecidableEq

/-- What is kept of a product. -/
structure StoredProduct where
  name : String
  description : String
deriving DecidableEq

/-- That a product takes a material, and how much of it. -/
structure Link where
  productId : EntityId
  materialId : EntityId
  /-- The quantity as it was entered, without the blanks around it. -/
  input : String
  quantity : Option Quantity

namespace Link

/-- The link for a quantity as a form gives it. -/
def ofInput (productId materialId : EntityId) (raw : String) : Link :=
  { productId, materialId, input := Text.trim raw, quantity := Quantity.ofInput? raw }

/-- What a link connects. -/
def ends (link : Link) : EntityId × EntityId := (link.productId, link.materialId)

end Link

namespace MarkedName

/-- The rows for a list of names, of which one is marked. -/
def mark (primaryName : String) (names : List String) : List MarkedName :=
  names.map fun name => { name, isPrimary := name == primaryName }

/-- The first marked name of a material, or its first name where none is marked. -/
def shown (names : List MarkedName) : String :=
  match names.find? (·.isPrimary) <|> names.head? with
  | some row => row.name
  | none => ""

end MarkedName

/-! ## The tables -/

/-- The content of the catalog. -/
structure Inventory where
  units : Table MeasureUnit
  materials : Table StoredMaterial
  /-- The names of every material. -/
  names : Table (List MarkedName)
  products : Table StoredProduct
  /-- In the order in which they were made. -/
  links : List Link
  /-- The files of those owners that ever had one. -/
  attachments : List (Owner × Attachments)
  /-- The identifier that was given out last. -/
  lastId : EntityId

namespace Inventory

/-- The inventory without content. -/
def empty : Inventory :=
  { units := .empty, materials := .empty, names := .empty, products := .empty, links := []
    attachments := [], lastId := 0 }

instance : Inhabited Inventory := ⟨empty⟩

/-- The identifier for the next entry. -/
def nextId (inv : Inventory) : EntityId := inv.lastId + 1

/-- The inventory once the next identifier is given out. -/
def advance (inv : Inventory) : Inventory := { inv with lastId := inv.nextId }

/-! ## Lookups -/

/-- The unit of an identifier. -/
def unit (inv : Inventory) (id : EntityId) : Except Fault MeasureUnit :=
  match inv.units.get? id with
  | some unit => .ok unit
  | none => .error (.unitMissing id)

/-- What is kept of the material of an identifier. -/
def storedMaterial (inv : Inventory) (id : EntityId) : Except Fault StoredMaterial :=
  match inv.materials.get? id with
  | some record => .ok record
  | none => .error (.materialMissing id)

/-- What is kept of the product of an identifier. -/
def storedProduct (inv : Inventory) (id : EntityId) : Except Fault StoredProduct :=
  match inv.products.get? id with
  | some record => .ok record
  | none => .error (.productMissing id)

/-- An owner of files is there. -/
def checkOwner (inv : Inventory) : Owner → Except Fault Unit
  | .material id => (inv.storedMaterial id).map fun _ => ()
  | .product id => (inv.storedProduct id).map fun _ => ()

/-- The names of a material. -/
def storedNames (inv : Inventory) (id : EntityId) : List MarkedName := (inv.names.get? id).getD []

/-- The name under which a material is shown. -/
def shownName (inv : Inventory) (id : EntityId) : String := MarkedName.shown (inv.storedNames id)

/-- The files of an owner, if it ever had one. -/
def attachmentsOf? (inv : Inventory) (owner : Owner) : Option Attachments :=
  (inv.attachments.find? (·.1 == owner)).map (·.2)

/-- How many materials are measured in a unit. -/
def countInUnit (inv : Inventory) (id : EntityId) : Nat :=
  inv.materials.values.countP (·.unitId == id)

/-- The links of a product. -/
def partsOf (inv : Inventory) (productId : EntityId) : List Link :=
  inv.links.filter (·.productId == productId)

/-- The links of a material. -/
def usesOf (inv : Inventory) (materialId : EntityId) : List Link :=
  inv.links.filter (·.materialId == materialId)

/-! ## Updates -/

/-- The inventory with a unit set. -/
def putUnit (inv : Inventory) (id : EntityId) (unit : MeasureUnit) : Inventory :=
  { inv with units := inv.units.insert id unit }

/-- The inventory without a unit. -/
def dropUnit (inv : Inventory) (id : EntityId) : Inventory :=
  { inv with units := inv.units.erase id }

/-- The inventory with the record of a material set. -/
def putMaterial (inv : Inventory) (id : EntityId) (record : StoredMaterial) : Inventory :=
  { inv with materials := inv.materials.insert id record }

/-- The inventory with the names of a material set. -/
def putNames (inv : Inventory) (id : EntityId) (names : List MarkedName) : Inventory :=
  { inv with names := inv.names.insert id names }

/-- The inventory without a material, its names, its links and its files. -/
def dropMaterial (inv : Inventory) (id : EntityId) : Inventory :=
  { inv with
    materials := inv.materials.erase id
    names := inv.names.erase id
    links := inv.links.filter (·.materialId != id)
    attachments := inv.attachments.filter (·.1 != .material id) }

/-- The inventory with the record of a product set. -/
def putProduct (inv : Inventory) (id : EntityId) (record : StoredProduct) : Inventory :=
  { inv with products := inv.products.insert id record }

/-- The inventory without a product, its links and its files. -/
def dropProduct (inv : Inventory) (id : EntityId) : Inventory :=
  { inv with
    products := inv.products.erase id
    links := inv.links.filter (·.productId != id)
    attachments := inv.attachments.filter (·.1 != .product id) }

/-- The inventory with a link set, in the place of the one between the same ends if there is one. -/
def putLink (inv : Inventory) (link : Link) : Inventory :=
  { inv with links := updateOrAppend Link.ends link.ends (fun _ => link) link inv.links }

/-- The inventory without the link between two ends. -/
def dropLink (inv : Inventory) (ends : EntityId × EntityId) : Inventory :=
  { inv with links := inv.links.filter (·.ends != ends) }

/-- The inventory with the files of an owner set. -/
def putAttachments (inv : Inventory) (owner : Owner) (files : Attachments) : Inventory :=
  { inv with
    attachments :=
      updateOrAppend Prod.fst owner (fun _ => (owner, files)) (owner, files) inv.attachments }

end Inventory

end PartsCatalog
