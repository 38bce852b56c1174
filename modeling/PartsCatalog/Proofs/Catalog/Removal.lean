import PartsCatalog.Proofs.Catalog.Parts

/-!
# Removals

With a material or a product goes everything that belongs to it, and nothing else
(`removal_takes_only_what_belongs`): it is not found any more and neither are its files, what it was
linked to is shown without it, and all other reads answer what they did.
-/

namespace PartsCatalog

/-- A product without a material; the others keep their order. -/
def Product.without (p : Product) (materialId : EntityId) : Product :=
  { p with materials := p.materials.filter (·.id != materialId) }

/-- A material without a product; the others keep their order. -/
def Material.without (m : Material) (productId : EntityId) : Material :=
  { m with products := m.products.filter (·.id != productId) }

namespace Inventory

/-- The files of an owner are gone, and those of all others and the units are as they were. -/
structure Forgets (inv inv' : Inventory) (gone : Owner) : Prop where
  missing : inv'.files gone = .error gone.missing
  files : ∀ owner, owner ≠ gone → inv'.files owner = inv.files owner
  units : inv'.listUnits = inv.listUnits
  unit : ∀ id, inv'.unit id = inv.unit id

variable {inv inv' : Inventory} {id other : EntityId} {gone : Owner}

theorem Forgets.of_dropped (units : inv'.units = inv.units)
    (attachments : inv'.attachments = inv.attachments.filter (·.1 != gone))
    (absent : ¬ inv'.Holds gone.entry)
    (owners : ∀ owner, owner ≠ gone → inv'.checkOwner owner = inv.checkOwner owner) :
    inv.Forgets inv' gone where
  missing := (inv'.finds_files gone).refused.2 absent
  files := by
    intro owner differs
    rw [Inventory.files, Inventory.files, owners owner differs, attachmentsOf?, attachmentsOf?,
      attachments, find?_filter_key_ne differs]
  units := by rw [listUnits, listUnits, units]
  unit := by
    intro id
    rw [Inventory.unit, Inventory.unit, units]

/-! ## What a view of another inventory says -/

namespace Valid

/-- Materials are read alike where the same is kept of them and they are viewed alike. -/
theorem material_congr (valid : inv.Valid) (valid' : inv'.Valid) (change : Material → Material)
    (kept : inv'.materials.get? id = inv.materials.get? id)
    (viewed : ∀ record, inv'.materialView id record = change (inv.materialView id record)) :
    inv'.material id = (inv.material id).map change := by
  cases found : inv.materials.get? id with
  | some record =>
    rw [valid.material_eq_ok found, valid'.material_eq_ok (kept.trans found), viewed]
    rfl
  | none =>
    rw [(valid.finds_material id).refused.2 (Table.get?_eq_none_iff.1 found),
      (valid'.finds_material id).refused.2 (Table.get?_eq_none_iff.1 (kept.trans found))]
    rfl

theorem product_congr (valid : inv.Valid) (valid' : inv'.Valid) (change : Product → Product)
    (kept : inv'.products.get? id = inv.products.get? id)
    (viewed : ∀ record, inv'.productView id record = change (inv.productView id record)) :
    inv'.product id = (inv.product id).map change := by
  cases found : inv.products.get? id with
  | some record =>
    rw [valid.product_eq_ok found, valid'.product_eq_ok (kept.trans found), viewed]
    rfl
  | none =>
    rw [(valid.finds_product id).refused.2 (Table.get?_eq_none_iff.1 found),
      (valid'.finds_product id).refused.2 (Table.get?_eq_none_iff.1 (kept.trans found))]
    rfl

theorem material_same (valid : inv.Valid) (valid' : inv'.Valid)
    (kept : inv'.materials.get? id = inv.materials.get? id)
    (viewed : inv'.materialView id = inv.materialView id) : inv'.material id = inv.material id :=
  (valid.material_congr valid' (fun m => m) kept (congrFun viewed)).trans
    (congrFun Except.map_id _)

theorem product_same (valid : inv.Valid) (valid' : inv'.Valid)
    (kept : inv'.products.get? id = inv.products.get? id)
    (viewed : inv'.productView id = inv.productView id) : inv'.product id = inv.product id :=
  (valid.product_congr valid' (fun p => p) kept (congrFun viewed)).trans (congrFun Except.map_id _)

/-- Products are listed alike where the same is kept of all of them and they are viewed alike. -/
theorem listProducts_same (valid : inv.Valid) (valid' : inv'.Valid)
    (kept : inv'.products = inv.products) (viewed : inv'.productView = inv.productView) :
    inv'.listProducts = inv.listProducts := by
  have listed : inv'.productListed = inv.productListed := by
    funext id record
    rw [productListed, productListed, viewed]
  rw [valid'.listProducts_eq_ok, valid.listProducts_eq_ok, kept, listed]

end Valid

/-- What is kept of a list, shown in another form, is what is kept of the list of all forms. -/
theorem map_filter_eq_filter_map {α β : Type} {xs : List α} {keep : α → Bool} {f : α → β}
    (g : α → β) (keep' : β → Bool) (sameForm : ∀ x, keep x → f x = g x)
    (sameKept : ∀ x, keep' (g x) = keep x) :
    (xs.filter keep).map f = (xs.map g).filter keep' := by
  rw [List.filter_map, show keep' ∘ g = keep from funext sameKept]
  exact List.map_congr_left fun x member => sameForm x (List.mem_filter.1 member).2

/-! ## Without a material -/

theorem forgets_dropMaterial (inv : Inventory) (id : EntityId) :
    inv.Forgets (inv.dropMaterial id) (.material id) := by
  refine .of_dropped rfl rfl (fun held => (Table.mem_ids_erase.1 held).2 rfl) ?_
  intro owner differs
  cases owner with
  | material other =>
    have differs : other ≠ id := fun same => differs (same ▸ rfl)
    rw [checkOwner, checkOwner, storedMaterial, storedMaterial, dropMaterial,
      Table.get?_erase_of_ne differs]
  | product other => rfl

theorem materialView_dropMaterial (differs : other ≠ id) (record : StoredMaterial) :
    (inv.dropMaterial id).materialView other record = inv.materialView other record := by
  have names : (inv.dropMaterial id).storedNames other = inv.storedNames other := by
    rw [storedNames, storedNames, dropMaterial, Table.get?_erase_of_ne differs]
  have uses : (inv.dropMaterial id).usesOf other = inv.usesOf other := filter_filter_key_ne differs
  rw [materialView, materialView, names, uses]
  rfl

theorem partOf_dropMaterial {link : Link} (differs : link.materialId ≠ id) :
    (inv.dropMaterial id).partOf link = inv.partOf link := by
  have record : (inv.dropMaterial id).materialOf link.materialId =
      inv.materialOf link.materialId := by
    rw [materialOf, materialOf, dropMaterial, Table.get?_erase_of_ne differs]
  have name : (inv.dropMaterial id).shownName link.materialId = inv.shownName link.materialId := by
    rw [shownName, shownName, storedNames, storedNames, dropMaterial,
      Table.get?_erase_of_ne differs]
  rw [partOf, partOf, record, name]
  rfl

/-- A product shows the materials that are left as before. -/
theorem productView_dropMaterial (productId : EntityId) (record : StoredProduct) :
    (inv.dropMaterial id).productView productId record =
      (inv.productView productId record).without id := by
  have parts : (inv.dropMaterial id).partsOf productId =
      (inv.partsOf productId).filter (·.materialId != id) := List.filter_comm ..
  rw [productView, parts, map_filter_eq_filter_map inv.partOf (·.id != id)]
  · rfl
  · intro link kept
    exact partOf_dropMaterial (bne_iff_ne.1 kept)
  · intro link
    rw [id_partOf]

/-! ## Without a product -/

theorem forgets_dropProduct (inv : Inventory) (id : EntityId) :
    inv.Forgets (inv.dropProduct id) (.product id) := by
  refine .of_dropped rfl rfl (fun held => (Table.mem_ids_erase.1 held).2 rfl) ?_
  intro owner differs
  cases owner with
  | material other => rfl
  | product other =>
    have differs : other ≠ id := fun same => differs (same ▸ rfl)
    rw [checkOwner, checkOwner, storedProduct, storedProduct, dropProduct,
      Table.get?_erase_of_ne differs]

theorem productView_dropProduct (differs : other ≠ id) (record : StoredProduct) :
    (inv.dropProduct id).productView other record = inv.productView other record := by
  have parts : (inv.dropProduct id).partsOf other = inv.partsOf other :=
    filter_filter_key_ne differs
  rw [productView, productView, parts]
  rfl

theorem useOf_dropProduct {link : Link} (differs : link.productId ≠ id) :
    (inv.dropProduct id).useOf link = inv.useOf link := by
  have record : (inv.dropProduct id).productOf link.productId = inv.productOf link.productId := by
    rw [productOf, productOf, dropProduct, Table.get?_erase_of_ne differs]
  rw [useOf, useOf, record]

/-- A material shows the products that are left as before. -/
theorem materialView_dropProduct (materialId : EntityId) (record : StoredMaterial) :
    (inv.dropProduct id).materialView materialId record =
      (inv.materialView materialId record).without id := by
  have uses : (inv.dropProduct id).usesOf materialId =
      (inv.usesOf materialId).filter (·.productId != id) := List.filter_comm ..
  rw [materialView, uses, map_filter_eq_filter_map inv.useOf (·.id != id)]
  · rfl
  · intro link kept
    exact useOf_dropProduct (bne_iff_ne.1 kept)
  · intro link
    rfl

/-! ## Removals -/

/-- **A removal takes what belongs to an entry and nothing else**, whatever changes came before.
What was removed is not found any more and neither are its files; what it was linked to is shown
with the rest of its links, in order; and all other entries, the units and the files of all other
owners are read as before. -/
theorem removal_takes_only_what_belongs (changes : List Change) (id : EntityId) (outcome : Outcome)
    (inv' : Inventory) :
    let inv := empty.run changes
    (inv.step (.removeMaterial id) = (inv', .ok outcome) →
      inv.Forgets inv' (.material id) ∧ inv'.material id = .error (.materialMissing id) ∧
        (∀ other, other ≠ id → inv'.material other = inv.material other) ∧
        ∀ productId, inv'.product productId = (inv.product productId).map (·.without id)) ∧
    (inv.step (.removeProduct id) = (inv', .ok outcome) →
      inv.Forgets inv' (.product id) ∧ inv'.product id = .error (.productMissing id) ∧
        (∀ other, other ≠ id → inv'.product other = inv.product other) ∧
        ∀ materialId, inv'.material materialId = (inv.material materialId).map (·.without id)) := by
  intro inv
  have valid : inv.Valid := valid_empty.run changes
  constructor
  · intro succeeded
    have effect : Effect inv (.removeMaterial id) outcome inv' := step_eq_ok_iff.1 succeeded
    have valid' : inv'.Valid := valid.of_effect effect
    cases effect with
    | removeMaterial =>
      refine ⟨inv.forgets_dropMaterial id, ?_, fun other differs => ?_, fun productId => ?_⟩
      · exact (valid'.finds_material id).refused.2 fun kept => (Table.mem_ids_erase.1 kept).2 rfl
      · exact (valid.material_congr valid' (fun m => m) (Table.get?_erase_of_ne differs)
          (materialView_dropMaterial differs)).trans (congrFun Except.map_id _)
      · exact valid.product_congr valid' _ rfl (productView_dropMaterial productId)
  · intro succeeded
    have effect : Effect inv (.removeProduct id) outcome inv' := step_eq_ok_iff.1 succeeded
    have valid' : inv'.Valid := valid.of_effect effect
    cases effect with
    | removeProduct =>
      refine ⟨inv.forgets_dropProduct id, ?_, fun other differs => ?_, fun materialId => ?_⟩
      · exact (valid'.finds_product id).refused.2 fun kept => (Table.mem_ids_erase.1 kept).2 rfl
      · exact (valid.product_congr valid' (fun p => p) (Table.get?_erase_of_ne differs)
          (productView_dropProduct differs)).trans (congrFun Except.map_id _)
      · exact valid.material_congr valid' _ rfl (materialView_dropProduct materialId)

/-- The bench and a stool of the same steel, with files of the steel and of the bench. -/
def workshop : List Change :=
  let part (id : EntityId) (raw : String) :=
    (Material.new id { id := 1, name := "kg" }).enterQuantity raw
  bench ++
    [.addProduct { Product.new 0 "Stool" with materials := [part 3 "a drop", part 2 "1,5"] },
      .addFile (.material 2) "steel.png" "steel.png" "image/png" 1,
      .addFile (.product 4) "bench.png" "bench.png" "image/png" 1]

theorem workshop_without_steel_or_bench :
    let inv := empty.run workshop
    inv.links.length = 4 ∧ inv.attachments.length = 2 ∧
    (∃ inv', inv.step (.removeMaterial 2) = (inv', .ok .done) ∧
      inv.Forgets inv' (.material 2) ∧ inv'.material 3 = inv.material 3 ∧
        inv'.product 5 = (inv.product 5).map (·.without 2)) ∧
    ∃ inv', inv.step (.removeProduct 4) = (inv', .ok .done) ∧
      inv.Forgets inv' (.product 4) ∧ inv'.product 5 = inv.product 5 ∧
        inv'.material 2 = (inv.material 2).map (·.without 4) := by
  intro inv
  have steel : (2 : EntityId) ∈ inv.materials.ids := by decide
  have bench : (4 : EntityId) ∈ inv.products.ids := by decide
  have withoutSteel := step_eq_ok_iff.2 (Effect.removeMaterial steel)
  have withoutBench := step_eq_ok_iff.2 (Effect.removeProduct bench)
  obtain ⟨steelGone, -⟩ := removal_takes_only_what_belongs workshop 2 .done _
  obtain ⟨-, benchGone⟩ := removal_takes_only_what_belongs workshop 4 .done _
  obtain ⟨forgets, -, materials, products⟩ := steelGone withoutSteel
  obtain ⟨forgets', -, products', materials'⟩ := benchGone withoutBench
  exact ⟨by decide, by decide, ⟨_, withoutSteel, forgets, materials 3 (by decide), products 5⟩,
    ⟨_, withoutBench, forgets', products' 5 (by decide), materials' 2⟩⟩

end Inventory

end PartsCatalog
