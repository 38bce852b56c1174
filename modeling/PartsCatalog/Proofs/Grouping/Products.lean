import PartsCatalog.Proofs.Grouping
import PartsCatalog.Proofs.Material
import PartsCatalog.Proofs.Quantity

/-!
# Products picked out of rows

The rows of a list of products are grouped twice in one pass, into products and each product's rows
into its materials.  A material is made of one row alone, the first of its product and its
identifier (`Product.ofRows`), and the rows of other products have no part in it
(`products_are_picked_out`).
-/

namespace PartsCatalog

namespace ProductRow

/-! ## Malformed rows -/

/-- What is wrong with a row, the first of four checks that it does not pass.  A row without a
material passes them all. -/
inductive Malformed (row : ProductRow) : Fault → Prop
  /-- The material column holds no identifier. -/
  | materialId {fault : Fault} (unread : row.materialId.toId? "material_id" = .error fault) :
    Malformed row fault
  /-- The unit column holds no identifier. -/
  | unitId {fault : Fault} {id : EntityId}
    (isMaterial : row.materialId.toId? "material_id" = .ok (some id))
    (unread : row.unitId.toId? "unit_id" = .error fault) : Malformed row fault
  /-- The material has an identifier and no unit. -/
  | unitMissing {id : EntityId} (isMaterial : row.materialId.toId? "material_id" = .ok (some id))
    (missing : row.unitId.toId? "unit_id" = .ok none) :
    Malformed row (.materialUnitMissing row.productId id)
  /-- The number column of the quantity holds no number. -/
  | quantity {fault : Fault} {id unitId : EntityId}
    (isMaterial : row.materialId.toId? "material_id" = .ok (some id))
    (hasUnit : row.unitId.toId? "unit_id" = .ok (some unitId))
    (unread : row.quantity.toQuantity? "quantity" = .error fault) : Malformed row fault

/-! ## Columns of rows -/

/-- The quantity of a row. -/
def statedQuantity (row : ProductRow) : Option Quantity :=
  PartsCatalog.statedQuantity row.quantity row.quantityText

/-- The names that the material of a row has: the one in the row, unless it is empty. -/
def materialNames (row : ProductRow) : List String :=
  row.materialName.toList.filter (!·.isEmpty)

/-- The material of a row, if it has one. -/
def statedMaterial? (row : ProductRow) : Option Material := do
  let id ← (row.materialId.toId? "material_id").toOption.join
  let unitId ← (row.unitId.toId? "unit_id").toOption.join
  return {
    id
    names := row.materialNames
    primaryName := row.materialName.getD ""
    unit := { id := unitId, name := row.unitName.getD "" }
    description := ""
    quantity := row.statedQuantity
    quantityInput := enteredText row.statedQuantity row.quantityText
    products := [] }

end ProductRow

/-- The product of the rows of one identifier. -/
def Product.ofRows (first : ProductRow) (rest : List ProductRow) : Product :=
  { id := first.productId
    name := first.name
    description := first.description.getD ""
    quantity := none
    materials := firstOfEach Material.id ((first :: rest).filterMap (·.statedMaterial?)) }

namespace ProductRow

variable {row : ProductRow} {fault : Fault}

/-! ## One row -/

/-- A row with a material and its unit has a material once its quantity can be read. -/
theorem material?_of_unit {id unitId : EntityId}
    (isMaterial : row.materialId.toId? "material_id" = .ok (some id))
    (hasUnit : row.unitId.toId? "unit_id" = .ok (some unitId)) :
    row.material? = (row.quantity.toQuantity? "quantity").map fun _ => row.statedMaterial? := by
  simp only [material?, statedMaterial?, isMaterial, hasUnit, ok_bind, readQuantity_eq]
  cases row.quantity.toQuantity? "quantity" with
  | error fault => rfl
  | ok quantity =>
    cases named : row.materialName with
    | none =>
      simp only [materialNames, named]
      rfl
    | some name =>
      simp only [materialNames, named, Except.map, ok_bind, Material.markPrimary_eq]
      cases empty : name.isEmpty <;> simp [empty, Material.lacksName, Material.new] <;> rfl

theorem material?_eq_error (malformed : row.Malformed fault) : row.material? = .error fault := by
  cases malformed with
  | materialId unread =>
    rw [material?, unread]
    rfl
  | unitId isMaterial unread =>
    simp only [material?, isMaterial, ok_bind, unread]
    rfl
  | unitMissing isMaterial missing =>
    simp only [material?, isMaterial, ok_bind, missing]
    rfl
  | quantity isMaterial hasUnit unread =>
    rw [material?_of_unit isMaterial hasUnit, unread]
    rfl

theorem material?_eq_ok (sound : ∀ fault, ¬ row.Malformed fault) :
    row.material? = .ok row.statedMaterial? := by
  cases isMaterial : row.materialId.toId? "material_id" with
  | error fault => exact absurd (.materialId isMaterial) (sound fault)
  | ok id =>
    cases id with
    | none =>
      rw [material?, statedMaterial?, isMaterial]
      rfl
    | some id =>
      cases hasUnit : row.unitId.toId? "unit_id" with
      | error fault => exact absurd (.unitId isMaterial hasUnit) (sound fault)
      | ok unitId =>
        cases unitId with
        | none => exact absurd (.unitMissing isMaterial hasUnit) (sound _)
        | some unitId =>
          rw [material?_of_unit isMaterial hasUnit]
          cases read : row.quantity.toQuantity? "quantity" with
          | error fault => exact absurd (.quantity isMaterial hasUnit read) (sound fault)
          | ok quantity => rfl

/-! ## The rows of one product -/

theorem foldl_merge_start (first : ProductRow) (rest : List ProductRow) :
    rest.foldl (fun p row => merge row.statedMaterial? p)
        (merge first.statedMaterial? first.start) = Product.ofRows first rest := by
  have merged := Product.foldl_merge (p := first.start)
    ((first :: rest).map (·.statedMaterial?))
  rw [List.foldl_map, List.reduceOption, List.filterMap_map,
    Product.foldl_addMaterial_of_nil rfl] at merged
  exact merged

theorem collects : Collects Product.id (·.productId) Malformed
    (fun row => merge row.statedMaterial?) (fun row => merge row.statedMaterial? row.start)
    addTo where
  fails malformed done := by
    rw [addTo, material?_eq_error malformed]
    rfl
  adds sound done := by
    rw [addTo, material?_eq_ok sound]
    rfl
  atKey _ := Product.id_merge _
  keeps _ _ := Product.id_merge _

end ProductRow

/-- Rows of which none is malformed make one product of every identifier. -/
theorem groupProducts_eq_ok {rows : List ProductRow}
    (sound : ∀ row ∈ rows, ∀ fault, ¬ row.Malformed fault) :
    groupProducts rows = .ok (entriesBy (·.productId) Product.ofRows rows) := by
  rw [groupProducts, ProductRow.collects.eq_ok sound]
  congr 2
  funext first rest
  exact ProductRow.foldl_merge_start first rest

/-- A listed product is made of the rows of its identifier, and no row of the list is malformed. -/
theorem exists_rows_of_mem_groupProducts {rows : List ProductRow} {ps : List Product} {p : Product}
    (grouped : groupProducts rows = .ok ps) (member : p ∈ ps) :
    (∀ row ∈ rows, ∀ fault, ¬ row.Malformed fault) ∧ ∃ first rest,
      p = Product.ofRows first rest ∧
      rows.filter (·.productId == first.productId) = first :: rest := by
  have sound := sound_of_eq_ok grouped fun fault =>
    (ProductRow.collects.eq_error_iff rows fault).2
  rw [groupProducts_eq_ok sound] at grouped
  obtain rfl := Except.ok.inj grouped
  exact ⟨sound, exists_of_mem_entriesBy member⟩

/-- **Grouping rows twice is picking products and their materials out of them.**  It fails exactly
where a row is malformed, with the fault of the first such row.  Otherwise there is one product of
every identifier, in the order in which the identifiers first come: its name and description are
those of its first row, and its materials the first of every identifier, each made of its own row
alone.  So a product stays the same whatever the rows of other products are and wherever they
stand. -/
theorem products_are_picked_out (rows : List ProductRow) :
    ((∃ fault, groupProducts rows = .error fault) ↔
      ∃ row ∈ rows, ∃ fault, row.Malformed fault) ∧
    (∀ fault, groupProducts rows = .error fault ↔ FirstFault ProductRow.Malformed rows fault) ∧
    ((∀ row ∈ rows, ∀ fault, ¬ row.Malformed fault) →
      groupProducts rows = .ok (entriesBy (·.productId) Product.ofRows rows)) ∧
    ∀ (others : List ProductRow) (products otherProducts : List Product) (id : EntityId),
      groupProducts rows = .ok products → groupProducts others = .ok otherProducts →
      rows.filter (·.productId == id) = others.filter (·.productId == id) →
      products.find? (·.id == id) = otherProducts.find? (·.id == id) := by
  refine ⟨ProductRow.collects.exists_error_iff rows, ProductRow.collects.eq_error_iff rows,
    groupProducts_eq_ok, ?_⟩
  intro others products otherProducts id grouped grouped' same
  exact ProductRow.collects.find?_eq grouped grouped' same

end PartsCatalog
