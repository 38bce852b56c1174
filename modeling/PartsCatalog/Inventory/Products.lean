import PartsCatalog.FieldCheck
import PartsCatalog.Inventory.Action

/-!
# Products in the inventory

A product takes each of its materials once; setting a material again replaces its quantity and keeps
its place.  With a product go its links and its files.

A product is added before its materials are set one by one, so a material that could not be set
would leave the product behind.  That all materials are looked up first rules this out.
-/

namespace PartsCatalog.Inventory

open PartsCatalog.Action

/-- The checks that the fields of a product pass. -/
def checkProductFields (name description : String) : Except Fault Unit := do
  FieldCheck.required "產品名稱" name
  FieldCheck.description description

/-- All materials of a list are there. -/
def checkMaterials (inv : Inventory) (materials : List Material) : Except Fault Unit :=
  materials.forM fun m => (inv.storedMaterial m.id).map fun _ => ()

/-- Says how much of a material a product takes. -/
def setPart (productId materialId : EntityId) (raw : String) : Action Unit := do
  let _ ← consult (·.storedProduct productId)
  let _ ← consult (·.storedMaterial materialId)
  modify (·.putLink (.ofInput productId materialId raw))

/-- Adds a product with its materials, whose quantities are taken as they are shown. -/
def addProduct (p : Product) : Action EntityId := do
  consult fun _ => checkProductFields p.name p.description
  consult (·.checkMaterials p.materials)
  let id ← takeId
  modify (·.putProduct id { name := p.name, description := p.description })
  p.materials.forM fun m => setPart id m.id m.shownQuantity
  return id

/-- Gives a product another name and description. -/
def reviseProduct (id : EntityId) (name description : String) : Action Unit := do
  consult fun _ => checkProductFields name description
  let _ ← consult (·.storedProduct id)
  modify (·.putProduct id { name, description })

/-- Takes a material out of a product, and says whether it was in it. -/
def removePart (productId materialId : EntityId) : Action Bool := do
  let _ ← consult (·.storedProduct productId)
  let before := (← get).links.length
  modify (·.dropLink (productId, materialId))
  return (← get).links.length != before

/-- Removes a product with its links and its files. -/
def removeProduct (id : EntityId) : Action Unit := do
  let _ ← consult (·.storedProduct id)
  modify (·.dropProduct id)

end PartsCatalog.Inventory
