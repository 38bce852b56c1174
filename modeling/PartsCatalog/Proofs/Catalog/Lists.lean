import PartsCatalog.Proofs.Catalog.Reads

/-!
# Lists agree with single entries

A list has one entry for each material or product that is there, by ascending identifier, and the
entry is what the catalog answers for the identifier alone, as a list shows it
(`lists_are_of_single_entries`).
-/

namespace PartsCatalog.Inventory

variable {inv : Inventory}

namespace Valid

/-- All materials one by one. -/
theorem mapM_material (valid : inv.Valid) :
    inv.materials.ids.mapM inv.material =
      .ok (inv.materials.entries.map fun entry => inv.materialView entry.1 entry.2) := by
  rw [Table.ids, List.mapM_map]
  exact mapM_eq_ok fun entry member => valid.material_eq_ok (Table.get?_eq_some_iff.2 member)

/-- All products one by one. -/
theorem mapM_product (valid : inv.Valid) :
    inv.products.ids.mapM inv.product =
      .ok (inv.products.entries.map fun entry => inv.productView entry.1 entry.2) := by
  rw [Table.ids, List.mapM_map]
  exact mapM_eq_ok fun entry member => valid.product_eq_ok (Table.get?_eq_some_iff.2 member)

end Valid

/-- **A list shows what the single entries show**, whatever changes came before.  The identifiers
that have an answer of their own are ascending, so none comes twice; these answers one by one make
up the list, entry by entry, but for the descriptions one level down and the quantity beside a
material, which is that of its first link. -/
theorem lists_are_of_single_entries (changes : List Change) :
    let inv := empty.run changes
    (inv.materials.ids.Pairwise (· < ·) ∧
      (∀ id, (∃ m, inv.material id = .ok m) ↔ id ∈ inv.materials.ids) ∧
      ∃ ms, inv.materials.ids.mapM inv.material = .ok ms ∧
        ms.map Material.id = inv.materials.ids ∧
        inv.listMaterials = .ok (ms.map fun m => m.asListed (inv.usesOf m.id).head?)) ∧
    (inv.products.ids.Pairwise (· < ·) ∧
      (∀ id, (∃ p, inv.product id = .ok p) ↔ id ∈ inv.products.ids) ∧
      ∃ ps, inv.products.ids.mapM inv.product = .ok ps ∧
        ps.map Product.id = inv.products.ids ∧
        inv.listProducts = .ok (ps.map Product.asListed)) := by
  intro inv
  have valid : inv.Valid := valid_empty.run changes
  refine ⟨⟨inv.materials.ids_ascending, fun id => (valid.finds_material id).answered, _,
    valid.mapM_material, ?_, ?_⟩, ⟨inv.products.ids_ascending,
    fun id => (valid.finds_product id).answered, _, valid.mapM_product, ?_, ?_⟩⟩
  · rw [List.map_map]
    rfl
  · rw [valid.listMaterials_eq_ok, List.map_map]
    rfl
  · rw [List.map_map]
    rfl
  · rw [valid.listProducts_eq_ok, List.map_map]
    rfl

end PartsCatalog.Inventory
