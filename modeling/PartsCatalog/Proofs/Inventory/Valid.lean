import PartsCatalog.Proofs.Attachment
import PartsCatalog.Proofs.Inventory.Effect
import PartsCatalog.Proofs.Quantity

/-!
# Valid inventories

What holds of every inventory that changes can lead to: everything that is referred to is there,
every material has names, unit names are told apart, links show what was entered, and no identifier
is used twice.  `Valid` states it; that changes keep it is the subject of the next module.
-/

namespace PartsCatalog

namespace Inventory

/-- The identifiers of all attached files. -/
def fileIds (inv : Inventory) : List EntityId := inv.attachments.flatMap fun entry => entry.2.ids

/-- The identifiers of everything there is: units, materials, products and files. -/
def idsInUse (inv : Inventory) : List EntityId :=
  inv.units.ids ++ inv.materials.ids ++ inv.products.ids ++ inv.fileIds

/-- The identifiers in use are different from each other and were given out by the counter. -/
structure IdsProper (inv : Inventory) : Prop where
  distinct : inv.idsInUse.Nodup
  given : ∀ id ∈ inv.idsInUse, 0 < id ∧ id ≤ inv.lastId
  started : 0 ≤ inv.lastId

/-- The invariant of the inventory. -/
structure Valid (inv : Inventory) : Prop where
  /-- Materials are measured in units that are there. -/
  measured : ∀ id record, inv.materials.get? id = some record → record.unitId ∈ inv.units.ids
  /-- Links connect a product and a material that are there. -/
  linked : ∀ link ∈ inv.links,
    link.productId ∈ inv.products.ids ∧ link.materialId ∈ inv.materials.ids
  /-- No two links have the same ends. -/
  linkedOnce : (inv.links.map Link.ends).Nodup
  /-- Names are kept of the materials that are there, and of nothing else. -/
  named : inv.names.ids = inv.materials.ids
  /-- Every material has a name. -/
  nonempty : ∀ id names, inv.names.get? id = some names → names ≠ []
  /-- The marked names of a material are one name. -/
  oneMarked : ∀ id names, inv.names.get? id = some names →
    ∀ a ∈ names, ∀ b ∈ names, a.isPrimary → b.isPrimary → a.name = b.name
  /-- Units are kept under their own identifiers. -/
  unitKey : ∀ id unit, inv.units.get? id = some unit → unit.id = id
  /-- Unit names are not blank, and no blanks surround them. -/
  unitName : ∀ id unit, inv.units.get? id = some unit →
    Text.isBlankText unit.name = false ∧ Text.Trimmed unit.name
  /-- No two units have the same name. -/
  unitNamesDiffer : ∀ id id' unit unit', inv.units.get? id = some unit →
    inv.units.get? id' = some unit' → unit.name = unit'.name → id = id'
  /-- Files are kept under their owners, which are there. -/
  owned : ∀ entry ∈ inv.attachments, inv.HasOwner entry.1 ∧ entry.2.owner = entry.1
  /-- The files of an owner are kept in one place. -/
  ownedOnce : (inv.attachments.map Prod.fst).Nodup
  /-- A link keeps what was entered and the quantity that it denotes. -/
  entered : ∀ link ∈ inv.links,
    link.quantity = Quantity.ofInput? link.input ∧ Text.Trimmed link.input
  ids : inv.IdsProper

theorem valid_empty : Valid empty where
  measured := by intro id record found; cases found
  linked := by intro link member; cases member
  linkedOnce := List.nodup_nil
  named := rfl
  nonempty := by intro id names found; cases found
  oneMarked := by intro id names found; cases found
  unitKey := by intro id unit found; cases found
  unitName := by intro id unit found; cases found
  unitNamesDiffer := by intro id id' unit unit' found; cases found
  owned := by intro entry member; cases member
  ownedOnce := List.nodup_nil
  entered := by intro link member; cases member
  ids := ⟨List.nodup_nil, fun id member => absurd member List.not_mem_nil, Int.le_refl 0⟩

/-! ## Identifiers -/

section InUse

variable {inv : Inventory} {id : EntityId}

theorem mem_idsInUse_of_units (member : id ∈ inv.units.ids) : id ∈ inv.idsInUse := by
  simp [idsInUse, member]

theorem mem_idsInUse_of_materials (member : id ∈ inv.materials.ids) : id ∈ inv.idsInUse := by
  simp [idsInUse, member]

theorem mem_idsInUse_of_products (member : id ∈ inv.products.ids) : id ∈ inv.idsInUse := by
  simp [idsInUse, member]

end InUse

namespace IdsProper

variable {inv inv' : Inventory}

theorem nextId_pos (proper : inv.IdsProper) : 0 < inv.nextId := Int.lt_add_one_of_le proper.started

/-- The next identifier stands above all that are in use. -/
theorem lt_nextId (proper : inv.IdsProper) {id : EntityId} (member : id ∈ inv.idsInUse) :
    id < inv.nextId := Int.lt_add_one_of_le (proper.given id member).2

theorem nextId_not_mem (proper : inv.IdsProper) : inv.nextId ∉ inv.idsInUse := fun member =>
  Int.lt_irrefl _ (proper.lt_nextId member)

/-- Identifiers stay proper where some go out of use. -/
theorem of_sublist (proper : inv.IdsProper) (fewer : inv'.idsInUse.Sublist inv.idsInUse)
    (sameLast : inv'.lastId = inv.lastId) : inv'.IdsProper where
  distinct := proper.distinct.sublist fewer
  given := fun id member => sameLast ▸ proper.given id (fewer.subset member)
  started := sameLast ▸ proper.started

/-- Identifiers stay proper where the next one comes into use. -/
theorem of_perm_cons (proper : inv.IdsProper)
    (more : inv'.idsInUse.Perm (inv.nextId :: inv.idsInUse)) (last : inv'.lastId = inv.nextId) :
    inv'.IdsProper where
  distinct := more.nodup_iff.2 (List.nodup_cons.2 ⟨proper.nextId_not_mem, proper.distinct⟩)
  given := by
    intro id member
    rw [last]
    rcases List.mem_cons.1 (more.mem_iff.1 member) with rfl | member
    · exact ⟨proper.nextId_pos, Int.le_refl _⟩
    · exact ⟨(proper.given id member).1, Int.le_of_lt (proper.lt_nextId member)⟩
  started := last ▸ Int.le_of_lt proper.nextId_pos

end IdsProper

end Inventory

end PartsCatalog
