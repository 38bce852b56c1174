import PartsCatalog.Proofs.Inventory.Naming

/-!
# The two sides of a link

A link is seen from its product as a material, and from its material as a product.  Both sides are
put together from rows of their own; still they tell the same story, whatever changes came before
(`products_agree_with_materials`).
-/

namespace PartsCatalog

variable {inv : Inventory} {productId materialId : EntityId}

/-- A product and a material show each other, or neither the other, and what the one shows of the
other is what the other shows of itself. -/
structure Product.AgreesWith (p : Product) (m : Material) : Prop where
  /-- The product takes the material exactly when the material goes into the product. -/
  linked : (∃ part ∈ p.materials, part.id = m.id) ↔ ∃ use ∈ m.products, use.id = p.id
  /-- The product shows each of its materials once. -/
  partOnce : (p.materials.map Material.id).Nodup
  /-- The material shows each of its products once. -/
  useOnce : (m.products.map Product.id).Nodup
  /-- Both sides show the same quantity. -/
  quantity : ∀ part ∈ p.materials, part.id = m.id → ∀ use ∈ m.products, use.id = p.id →
    part.quantity = use.quantity
  /-- The product shows the material as the material shows itself. -/
  part : ∀ part ∈ p.materials, part.id = m.id →
    part.shownName = m.shownName ∧ part.unit = m.unit ∧ part.description = m.description
  /-- The material shows the product as the product shows itself. -/
  use : ∀ use ∈ m.products, use.id = p.id → use.name = p.name ∧ use.description = p.description

namespace Inventory

/-! ## Parts and uses -/

theorem partOf_eq (inv : Inventory) (link : Link) :
    (inv.partOf link).shownName = inv.shownName link.materialId ∧
      (inv.partOf link).unit = inv.unitOf (inv.materialOf link.materialId) ∧
      (inv.partOf link).description = (inv.materialOf link.materialId).description ∧
      (inv.partOf link).quantity = link.quantity := by
  refine ⟨?_, ?_, rfl, rfl⟩
  · by_cases named : inv.shownName link.materialId = ""
    · simp [partOf, Material.markPrimary_eq, Material.shownName, Material.hasPrimaryName,
        Material.withDescription, Material.lacksName, Material.new, named]
    · simp [partOf, Material.markPrimary_eq, Material.shownName, Material.hasPrimaryName,
        Material.withDescription, named]
  · rw [partOf, Material.markPrimary_eq]
    rfl

theorem exists_part_iff {record : StoredProduct} :
    (∃ part ∈ (inv.productView productId record).materials, part.id = materialId) ↔
      (productId, materialId) ∈ inv.links.map Link.ends := by
  simp only [productView, partsOf, List.mem_map, List.mem_filter, beq_iff_eq]
  constructor
  · rintro ⟨_, ⟨link, ⟨member, rfl⟩, rfl⟩, rfl⟩
    exact ⟨link, member, by rw [id_partOf, Link.ends]⟩
  · rintro ⟨link, member, same⟩
    obtain ⟨rfl, rfl⟩ := Prod.mk.inj same
    exact ⟨inv.partOf link, ⟨link, ⟨member, rfl⟩, rfl⟩, inv.id_partOf link⟩

theorem exists_use_iff {record : StoredMaterial} :
    (∃ use ∈ (inv.materialView materialId record).products, use.id = productId) ↔
      (productId, materialId) ∈ inv.links.map Link.ends := by
  simp only [materialView, usesOf, List.mem_map, List.mem_filter, beq_iff_eq]
  constructor
  · rintro ⟨_, ⟨link, ⟨member, rfl⟩, rfl⟩, rfl⟩
    exact ⟨link, member, rfl⟩
  · rintro ⟨link, member, same⟩
    obtain ⟨rfl, rfl⟩ := Prod.mk.inj same
    exact ⟨inv.useOf link, ⟨link, ⟨member, rfl⟩, rfl⟩, rfl⟩

/-- The views of a valid inventory agree: a part and a use of the same ends are made of the same
link, and each takes everything else from the record that the other view shows. -/
theorem Valid.agreesWith (valid : inv.Valid) (checked : inv.NamesChecked) {record : StoredProduct}
    {record' : StoredMaterial} (product : inv.products.get? productId = some record)
    (material : inv.materials.get? materialId = some record') :
    (inv.productView productId record).AgreesWith (inv.materialView materialId record') where
  linked := exists_part_iff.trans exists_use_iff.symm
  partOnce := by
    rw [productView, List.map_map, show Material.id ∘ inv.partOf = (·.materialId) from
      funext inv.id_partOf]
    exact valid.nodup_partsOf productId
  useOnce := by
    rw [materialView, List.map_map]
    exact valid.nodup_usesOf materialId
  quantity := by
    intro part partMember atMaterial use useMember atProduct
    obtain ⟨link, inside, rfl⟩ := List.mem_map.1 partMember
    obtain ⟨link', inside', rfl⟩ := List.mem_map.1 useMember
    obtain ⟨member, sameProduct⟩ := List.mem_filter.1 inside
    obtain ⟨member', sameMaterial⟩ := List.mem_filter.1 inside'
    rw [id_partOf] at atMaterial
    -- one link for each pair of ends
    have same : link = link' := by
      refine List.inj_on_of_nodup_map valid.linkedOnce member member' (Prod.ext ?_ ?_)
      · exact (beq_iff_eq.1 sameProduct).trans atProduct.symm
      · exact atMaterial.trans (beq_iff_eq.1 sameMaterial).symm
    rw [same]
    exact (inv.partOf_eq link').2.2.2
  part := by
    intro part member atMaterial
    obtain ⟨link, -, rfl⟩ := List.mem_map.1 member
    rw [id_partOf] at atMaterial
    obtain ⟨shown, unit, description, -⟩ := inv.partOf_eq link
    have kept : inv.materialOf link.materialId = record' := by
      rw [materialOf, atMaterial, show inv.materials.get? (inv.materialView materialId record').id =
        some record' from material, Option.getD_some]
    rw [shown, unit, description, kept, checked.shownName_materialView, atMaterial]
    exact ⟨rfl, rfl, rfl⟩
  use := by
    intro use member atProduct
    obtain ⟨link, -, rfl⟩ := List.mem_map.1 member
    have kept : inv.productOf link.productId = record := by
      rw [productOf, show link.productId = productId from atProduct, product, Option.getD_some]
    rw [useOf, kept]
    exact ⟨rfl, rfl⟩

/-- **Products and materials agree about each other** after any run of changes: for a product and a
material that are there, both can be read, the material's unit is the one that is kept now, and
what either shows of the other is what that one shows of itself. -/
theorem products_agree_with_materials (changes : List Change) :
    let inv := empty.run changes
    ∀ productId ∈ inv.products.ids, ∀ materialId ∈ inv.materials.ids,
      ∃ p m, inv.product productId = .ok p ∧ inv.material materialId = .ok m ∧
        p.id = productId ∧ m.id = materialId ∧ inv.unit m.unit.id = .ok m.unit ∧
        p.AgreesWith m := by
  intro inv productId product materialId material
  have valid : inv.Valid := valid_empty.run changes
  obtain ⟨record, keptProduct⟩ := Table.mem_ids_iff.1 product
  obtain ⟨record', keptMaterial⟩ := Table.mem_ids_iff.1 material
  have unit := valid.unit_unitOf keptMaterial
  have sameId : (inv.unitOf record').id = record'.unitId :=
    valid.unitKey _ _ (unit_eq_ok.1 unit)
  refine ⟨_, _, valid.product_eq_ok keptProduct, valid.material_eq_ok keptMaterial, rfl, rfl, ?_,
    valid.agreesWith (namesChecked_run_empty changes) keptProduct keptMaterial⟩
  rw [materialView, sameId]
  exact unit

/-- A frame of a steel with two names, of which none is marked; later the unit and the names get
other words. -/
def renamedFrame : List Change :=
  let steel := { Material.new 0 { id := 1, name := "kg" } with names := ["Steel", "Сталь"] }
  let part := (Material.new 2 { id := 1, name := "kg" }).enterQuantity "2,5"
  [.addUnit "kg", .addMaterial steel, .addProduct { Product.new 0 "Frame" with materials := [part] },
    .renameUnit 1 "kilogram", .renameMaterial 2 "Iron" ["Steel"]]

theorem renamedFrame_agrees :
    3 ∈ (empty.run renamedFrame).products.ids ∧ 2 ∈ (empty.run renamedFrame).materials.ids ∧
      ∃ p m, (empty.run renamedFrame).product 3 = .ok p ∧
        (empty.run renamedFrame).material 2 = .ok m ∧ p.id = 3 ∧ m.id = 2 ∧
        (empty.run renamedFrame).unit m.unit.id = .ok m.unit ∧ p.AgreesWith m := by
  have product : 3 ∈ (empty.run renamedFrame).products.ids := by decide
  have material : 2 ∈ (empty.run renamedFrame).materials.ids := by decide
  exact ⟨product, material, products_agree_with_materials renamedFrame 3 product 2 material⟩

end Inventory

end PartsCatalog
