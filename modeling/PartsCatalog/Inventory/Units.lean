import PartsCatalog.FieldCheck
import PartsCatalog.Inventory.Action

/-!
# Units in the inventory

Unit names are different from each other, and a unit stays as long as a material is measured in it.
-/

namespace PartsCatalog.Inventory

open PartsCatalog.Action

/-- The name of a unit as it is kept.  No other unit may have it. -/
def checkUnitName (inv : Inventory) (isOther : EntityId → Bool) (raw : String) :
    Except Fault String := do
  FieldCheck.required "單位名稱" raw
  let name := Text.trim raw
  if inv.units.values.any fun unit => isOther unit.id && unit.name == name then
    throw (.unitNameTaken name)
  return name

/-- No material is measured in a unit. -/
def checkUnused (inv : Inventory) (unitId : EntityId) : Except Fault Unit :=
  let count := inv.countInUnit unitId
  if 0 < count then .error (.unitInUse unitId count) else .ok ()

/-- Adds a unit. -/
def addUnit (raw : String) : Action EntityId := do
  let name ← consult (·.checkUnitName (fun _ => true) raw)
  let id ← takeId
  modify (·.putUnit id { id, name })
  return id

/-- Gives a unit another name. -/
def renameUnit (id : EntityId) (raw : String) : Action Unit := do
  let name ← consult (·.checkUnitName (· != id) raw)
  let unit ← consult (·.unit id)
  modify (·.putUnit id { unit with name })

/-- Removes a unit in which no material is measured. -/
def removeUnit (id : EntityId) : Action Unit := do
  let _ ← consult (·.unit id)
  consult (·.checkUnused id)
  modify (·.dropUnit id)

end PartsCatalog.Inventory
