import PartsCatalog.Catalog
import PartsCatalog.Proofs.Grouping
import PartsCatalog.Proofs.Inventory.Rows

/-!
# Answers of the catalog

What the catalog answers about a valid inventory, without the rows in between: `materialView` and
`productView` for single entries, `materialListed` and `productListed` for the entries of lists.
The last two are collected from a cross product of rows, and still they are the first two as a list
shows them (`Material.asListed`, `Product.asListed`).
-/

namespace PartsCatalog

/-- A material as a list shows it: its products come without descriptions, and the quantity of the
first link of it stands beside the material itself. -/
def Material.asListed (m : Material) (first : Option Link) : Material :=
  { m with
    quantity := first.bind (·.quantity)
    quantityInput := first.bind fun link => link.quantity.map fun _ => link.input
    products := m.products.map (·.withDescription "") }

namespace Inventory

/-! ## Views -/

/-- A material with its names and products. -/
def materialView (inv : Inventory) (id : EntityId) (record : StoredMaterial) : Material :=
  { id
    names := (MarkedName.collect (inv.storedNames id)).1
    primaryName := (MarkedName.collect (inv.storedNames id)).2
    unit := inv.unitOf record
    description := record.description
    quantity := none
    quantityInput := none
    products := (inv.usesOf id).map inv.useOf }

/-- A product with its materials. -/
def productView (inv : Inventory) (id : EntityId) (record : StoredProduct) : Product :=
  { id
    name := record.name
    description := record.description
    quantity := none
    materials := (inv.partsOf id).map inv.partOf }

/-- The product of a link, as a list of materials shows it: without its description. -/
def listedUse (inv : Inventory) (link : Link) : Product := (inv.useOf link).withDescription ""

/-- The material of a link, as a list of products shows it: without its description. -/
def listedPart (inv : Inventory) (link : Link) : Material := (inv.partOf link).withDescription ""

/-- A material in a list. -/
def materialListed (inv : Inventory) (id : EntityId) (record : StoredMaterial) : Material :=
  (inv.materialView id record).asListed (inv.usesOf id).head?

/-- A product in a list. -/
def productListed (inv : Inventory) (id : EntityId) (record : StoredProduct) : Product :=
  (inv.productView id record).asListed

/-- The name and the product of a row of a material. -/
def listedPair (inv : Inventory) (pair : MarkedName × Option Link) :
    MarkedName × Option Product :=
  (pair.1, pair.2.map inv.listedUse)

/-- The material that a row starts if it is the first of its identifier. -/
def pairStart (inv : Inventory) (id : EntityId) (record : StoredMaterial) (link : Option Link) :
    Material :=
  { Material.new id (inv.unitOf record) with
    description := record.description
    quantity := link.bind (·.quantity)
    quantityInput := link.bind fun link => link.quantity.map fun _ => link.input }

variable {inv : Inventory} {id : EntityId} {link : Link}

namespace Valid

/-- Links that agree in one end are told apart by the other. -/
theorem nodup_filter_links (valid : inv.Valid) {keep : Link → Bool} {end' : Link → EntityId}
    (same : ∀ a b, keep a → keep b → end' a = end' b → a.ends = b.ends) :
    ((inv.links.filter keep).map end').Nodup := by
  have distinct : (inv.links.filter keep).Pairwise fun a b => a.ends ≠ b.ends :=
    (List.pairwise_map.1 valid.linkedOnce).filter keep
  refine List.pairwise_map.2 (distinct.imp_of_mem fun memberA memberB differ sameEnd => ?_)
  exact differ (same _ _ (List.mem_filter.1 memberA).2 (List.mem_filter.1 memberB).2 sameEnd)

theorem nodup_usesOf (valid : inv.Valid) (id : EntityId) :
    ((inv.usesOf id).map (·.productId)).Nodup :=
  valid.nodup_filter_links fun _ _ atA atB same =>
    Prod.ext same ((eq_of_beq atA).trans (eq_of_beq atB).symm)

theorem nodup_partsOf (valid : inv.Valid) (id : EntityId) :
    ((inv.partsOf id).map (·.materialId)).Nodup :=
  valid.nodup_filter_links fun _ _ atA atB same =>
    Prod.ext ((eq_of_beq atA).trans (eq_of_beq atB).symm) same

/-- The materials that a product shows are different. -/
theorem nodup_parts (valid : inv.Valid) (id : EntityId) :
    (((inv.partsOf id).map inv.partOf).map Material.id).Nodup := by
  rw [List.map_map, show Material.id ∘ inv.partOf = (·.materialId) from funext inv.id_partOf]
  exact valid.nodup_partsOf id

/-! ## Single entries -/

theorem material_eq_ok (valid : inv.Valid) {record : StoredMaterial}
    (found : inv.materials.get? id = some record) :
    inv.material id = .ok (inv.materialView id record) := by
  have stored : inv.storedMaterial id = .ok record := storedMaterial_eq_ok.2 found
  have member : ∀ link ∈ inv.usesOf id, link ∈ inv.links := fun link inside =>
    (List.mem_filter.1 inside).1
  have rows := mapM_eq_ok fun link inside => valid.useRow_useRowOf (member link inside)
  have added : ∀ m : Material, ((inv.usesOf id).map inv.useRowOf).foldlM
      (fun m row => return m.addProduct (← row.product)) m =
        Except.ok (((inv.usesOf id).map inv.useOf).foldl Material.addProduct m) := by
    intro m
    rw [List.foldlM_map, List.foldl_map]
    apply foldlM_eq_ok
    intro m link inside
    rw [valid.product_useRowOf (member link inside)]
    rfl
  have distinct : (((inv.usesOf id).map inv.useOf).map Product.id).Nodup := by
    rw [List.map_map]
    exact valid.nodup_usesOf id
  simp only [Inventory.material, materialEntry, namesOf, useRowsOf, stored, ok_bind, pure_bind,
    valid.unit_unitOf found, rows, MaterialEntry.assemble]
  rw [added, Material.foldl_addMarked, Material.foldl_addProduct rfl distinct]
  rfl

theorem product_eq_ok (valid : inv.Valid) {record : StoredProduct}
    (found : inv.products.get? id = some record) :
    inv.product id = .ok (inv.productView id record) := by
  have stored : inv.storedProduct id = .ok record := storedProduct_eq_ok.2 found
  have member : ∀ link ∈ inv.partsOf id, link ∈ inv.links := fun link inside =>
    (List.mem_filter.1 inside).1
  have rows := mapM_eq_ok fun link inside => valid.partRow_partRowOf (member link inside)
  have added : ∀ p : Product, ((inv.partsOf id).map inv.partRowOf).foldlM PartRow.addTo p =
      Except.ok (((inv.partsOf id).map inv.partOf).foldl Product.addMaterial p) := by
    intro p
    rw [List.foldlM_map, List.foldl_map]
    apply foldlM_eq_ok
    intro p link inside
    exact Product.addTo_of_material (valid.material_partRowOf (member link inside))
      (inv.id_partOf link)
  simp only [Inventory.product, productEntry, partRowsOf, stored, ok_bind, pure_bind, rows,
    ProductEntry.assemble]
  rw [added, Product.foldl_addMaterial rfl (valid.nodup_parts id)]
  rfl

/-! ## Lists of materials -/

theorem addTo_materialRowOf (valid : inv.Valid) {record : StoredMaterial}
    {pair : MarkedName × Option Link} (member : ∀ link ∈ pair.2, link ∈ inv.links)
    (done : List Material) :
    MaterialRow.addTo done (inv.materialRowOf id record pair) =
      .ok (updateOrAppend Material.id id
        (fun m => m.mergePair (inv.listedPair pair))
        ((inv.pairStart id record pair.2).mergePair (inv.listedPair pair)) done) := by
  obtain ⟨name, link⟩ := pair
  cases link with
  | none => rfl
  | some link =>
    have quantity : readQuantity (inv.materialRowOf id record (name, some link)).quantity
        (inv.materialRowOf id record (name, some link)).quantityText = .ok link.quantity :=
      valid.readQuantity_link (member link rfl)
    have entered : enteredText link.quantity
        (inv.materialRowOf id record (name, some link)).quantityText =
          link.quantity.map fun _ => link.input := valid.enteredText_link (member link rfl)
    rw [MaterialRow.addTo, quantity, ok_bind, MaterialRow.start, entered]
    rfl

theorem storedNames_ne_nil (valid : inv.Valid) (present : id ∈ inv.materials.ids) :
    inv.storedNames id ≠ [] := by
  obtain ⟨names, found⟩ := Table.mem_ids_iff.1 (valid.named ▸ present)
  rw [storedNames, found, Option.getD_some]
  exact valid.nonempty id names found

/-- All rows of a material together add its names and its products. -/
theorem foldl_namedUses (valid : inv.Valid) (present : id ∈ inv.materials.ids) (m : Material) :
    (inv.namedUses id).foldl (fun m pair => m.mergePair (inv.listedPair pair)) m =
      ((inv.usesOf id).map inv.listedUse).foldl Material.addProduct
        ((inv.storedNames id).foldl Material.addMarked m) := by
  have pairs : (inv.namedUses id).map inv.listedPair = (inv.storedNames id).flatMap fun name =>
      ((orGap (inv.usesOf id)).map (Option.map inv.listedUse)).map fun use => (name, use) := by
    simp only [namedUses, List.map_flatMap, List.map_map, Function.comp_def, listedPair]
  have products : ((orGap (inv.usesOf id)).map (Option.map inv.listedUse)).reduceOption =
      (inv.usesOf id).map inv.listedUse := by
    rw [List.reduceOption_map, reduceOption_orGap]
  obtain ⟨rest, gaps⟩ := exists_orGap_eq (inv.usesOf id)
  rw [← List.foldl_map, pairs, Material.foldl_mergePair (valid.storedNames_ne_nil present)
    (by simp [gaps]), products]

/-- The rows of a material make one entry of the list. -/
theorem foldlM_materialRowOf (valid : inv.Valid) {record : StoredMaterial}
    (found : inv.materials.get? id = some record) {done : List Material}
    (absent : id ∉ done.map Material.id) :
    ((inv.namedUses id).map (inv.materialRowOf id record)).foldlM MaterialRow.addTo done =
      .ok (done ++ [inv.materialListed id record]) := by
  have present := Table.mem_ids_of_get? found
  have merged : ((inv.namedUses id).map (inv.materialRowOf id record)).foldlM
      MaterialRow.addTo done = .ok ((inv.namedUses id).foldl (fun done pair =>
        updateOrAppend Material.id id (fun m => m.mergePair (inv.listedPair pair))
          ((inv.pairStart id record pair.2).mergePair (inv.listedPair pair)) done) done) := by
    rw [List.foldlM_map]
    exact foldlM_eq_ok (fun done pair member =>
      valid.addTo_materialRowOf (mem_of_mem_namedUses member) done) done
  have distinct : (((inv.usesOf id).map inv.listedUse).map Product.id).Nodup := by
    rw [List.map_map]
    exact valid.nodup_usesOf id
  obtain ⟨name, names, named⟩ := List.exists_cons_of_ne_nil (valid.storedNames_ne_nil present)
  obtain ⟨links, gaps⟩ := exists_orGap_eq (inv.usesOf id)
  obtain ⟨rest, pairs⟩ : ∃ rest, inv.namedUses id = (name, (inv.usesOf id).head?) :: rest := by
    rw [namedUses, named, gaps]
    exact ⟨_, rfl⟩
  -- the first row starts the entry, and all rows are merged into it
  rw [merged, pairs, foldl_updateOrAppend (fun pair m => m.mergePair (inv.listedPair pair))
      (fun pair => inv.pairStart id record pair.2) absent rfl fun _ _ => Material.id_mergePair _,
    ← pairs, valid.foldl_namedUses present, Material.foldl_addMarked,
    Material.foldl_addProduct rfl distinct, materialListed, Material.asListed, materialView,
    List.map_map]
  rfl

/-- One entry for each material that is there, in the order of the table. -/
theorem listMaterials_eq_ok (valid : inv.Valid) :
    inv.listMaterials = .ok (inv.materials.entries.map fun entry =>
      inv.materialListed entry.1 entry.2) := by
  let rows (entry : EntityId × StoredMaterial) :=
    (inv.namedUses entry.1).map (inv.materialRowOf entry.1 entry.2)
  let item (entry : EntityId × StoredMaterial) := inv.materialListed entry.1 entry.2
  have distinct : (([] ++ inv.materials.entries.map item).map Material.id).Nodup := by
    rw [List.nil_append, List.map_map]
    exact inv.materials.ids_nodup
  have grouped := foldlM_blocks rows item (fun entry member _ absent =>
    valid.foldlM_materialRowOf (Table.get?_eq_some_iff.2 member) absent) distinct
  rw [listMaterials, valid.materialRows_eq_ok, ok_bind, groupMaterials, grouped, List.nil_append]

/-! ## Lists of products -/

/-- A row of a product gives the material of its link, if it has one. -/
theorem material?_productRowOf (valid : inv.Valid) {record : StoredProduct} {link : Option Link}
    (member : ∀ link' ∈ link, link' ∈ inv.links) :
    (inv.productRowOf (productStart id record) link).material? =
      .ok (link.map inv.listedPart) := by
  cases link with
  | none => rfl
  | some link =>
    let row := inv.productRowOf (productStart id record) (some link)
    have quantity : readQuantity row.quantity row.quantityText = .ok link.quantity :=
      valid.readQuantity_link (member link rfl)
    have entered : enteredText link.quantity row.quantityText =
        link.quantity.map fun _ => link.input := valid.enteredText_link (member link rfl)
    have toId : row.materialId.toId? "material_id" = .ok (some link.materialId) := rfl
    have toUnitId : row.unitId.toId? "unit_id" =
        .ok (some (inv.unitOf (inv.materialOf link.materialId)).id) := rfl
    change row.material? = _
    rw [ProductRow.material?, toId]
    simp only [ok_bind, toUnitId, quantity, entered]
    rw [Option.map_some, listedPart, partOf, Material.markPrimary_eq (inv.shownName _)]
    exact congrArg (Except.ok ∘ some) (Material.markPrimary_eq (inv.shownName link.materialId))

theorem addTo_productRowOf (valid : inv.Valid) (id : EntityId) (record : StoredProduct)
    {link : Option Link} (member : ∀ link' ∈ link, link' ∈ inv.links) (done : List Product) :
    ProductRow.addTo done (inv.productRowOf (productStart id record) link) =
      .ok (updateOrAppend Product.id id (ProductRow.merge (link.map inv.listedPart))
        (ProductRow.merge (link.map inv.listedPart)
          ((Product.new id record.name).withDescription record.description)) done) := by
  rw [ProductRow.addTo, valid.material?_productRowOf member, ok_bind]
  cases link with
  | none => rfl
  | some link => rfl

/-- The rows of a product make one entry of the list. -/
theorem foldlM_productRowOf (valid : inv.Valid) (record : StoredProduct) {done : List Product}
    (absent : id ∉ done.map Product.id) :
    ((orGap (inv.partsOf id)).map (inv.productRowOf (productStart id record))).foldlM
      ProductRow.addTo done = .ok (done ++ [inv.productListed id record]) := by
  have member : ∀ link ∈ orGap (inv.partsOf id), ∀ link' ∈ link, link' ∈ inv.links := by
    intro link inside link' isSome
    obtain rfl : link = some link' := isSome
    exact (List.mem_filter.1 (mem_of_some_mem_orGap inside)).1
  have merged := foldlM_eq_ok (fun done link inside =>
    valid.addTo_productRowOf id record (member link inside) done) done
  have distinct : (((inv.partsOf id).map inv.listedPart).map Material.id).Nodup := by
    rw [List.map_map, show Material.id ∘ inv.listedPart = (·.materialId) from funext inv.id_partOf]
    exact valid.nodup_partsOf id
  obtain ⟨rest, gaps⟩ := exists_orGap_eq (inv.partsOf id)
  rw [List.foldlM_map, merged, gaps,
    foldl_updateOrAppend (fun link : Option Link => ProductRow.merge (link.map inv.listedPart))
      (fun _ => (Product.new id record.name).withDescription record.description) absent rfl
      fun _ _ => Product.id_merge _,
    ← gaps, ← List.foldl_map (f := Option.map inv.listedPart) (g := fun p m => ProductRow.merge m p),
    Product.foldl_merge, List.reduceOption_map, reduceOption_orGap,
    Product.foldl_addMaterial rfl distinct, productListed, Product.asListed, productView,
    List.map_map]
  rfl

/-- One entry for each product that is there, in the order of the table. -/
theorem listProducts_eq_ok (valid : inv.Valid) :
    inv.listProducts = .ok (inv.products.entries.map fun entry =>
      inv.productListed entry.1 entry.2) := by
  let rows (entry : EntityId × StoredProduct) :=
    (orGap (inv.partsOf entry.1)).map (inv.productRowOf (productStart entry.1 entry.2))
  let item (entry : EntityId × StoredProduct) := inv.productListed entry.1 entry.2
  have distinct : (([] ++ inv.products.entries.map item).map Product.id).Nodup := by
    rw [List.nil_append, List.map_map]
    exact inv.products.ids_nodup
  have grouped := foldlM_blocks rows item (fun entry _ _ absent =>
    valid.foldlM_productRowOf entry.2 absent) distinct
  rw [listProducts, valid.productRows_eq_ok, ok_bind, groupProducts, grouped, List.nil_append]

end Valid

end Inventory

end PartsCatalog
