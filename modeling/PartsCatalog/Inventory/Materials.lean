import PartsCatalog.FieldCheck
import PartsCatalog.Inventory.Action

/-!
# Materials in the inventory

A material is measured in a unit that is there and has at least one name.  With a material go its
names, its links and its files.
-/

namespace PartsCatalog.Inventory

open PartsCatalog.Action

/-- Adds a material: its names, its unit and its description. -/
def addMaterial (m : Material) : Action EntityId := do
  consult fun _ => FieldCheck.names m.names
  let _ ← consult (·.unit m.unit.id)
  let id ← takeId
  modify (·.putMaterial id { unitId := m.unit.id, description := m.description })
  modify (·.putNames id (MarkedName.mark m.primaryName m.names))
  return id

/-- Replaces all names of a material. -/
def renameMaterial (id : EntityId) (primaryName : String) (names : List String) :
    Action Unit := do
  let record ← consult (·.storedMaterial id)
  let m ← consult fun _ =>
    (Material.new id { id := record.unitId, name := "" }).setNames primaryName names
  modify (·.putNames id (MarkedName.mark m.primaryName m.names))

/-- Measures a material in another unit. -/
def changeUnit (id unitId : EntityId) : Action Unit := do
  let _ ← consult (·.unit unitId)
  let record ← consult (·.storedMaterial id)
  modify (·.putMaterial id { record with unitId })

/-- Describes a material in other words. -/
def describeMaterial (id : EntityId) (description : String) : Action Unit := do
  consult fun _ => FieldCheck.description description
  let record ← consult (·.storedMaterial id)
  modify (·.putMaterial id { record with description })

/-- Removes a material with its names, its links and its files. -/
def removeMaterial (id : EntityId) : Action Unit := do
  let _ ← consult (·.storedMaterial id)
  modify (·.dropMaterial id)

end PartsCatalog.Inventory
