import Mathlib.Data.List.ReduceOption
import PartsCatalog.Grouping
import PartsCatalog.Inventory.Rows
import PartsCatalog.Proofs.Attempt
import PartsCatalog.Proofs.Inventory.Valid
import PartsCatalog.Proofs.Material

/-!
# Rows of a valid inventory

What the queries answer where nothing can fail.  In a valid inventory everything that is referred to
is there, so each query has an answer without the possibility to fail (`unitOf`, `productOf` and the
rows made of them), and the two columns of a quantity read back as the quantity of the link
(`readQuantity_columns`) with the text that was entered (`enteredText_columns`).
-/

namespace PartsCatalog

/-! ## Columns of a quantity -/

namespace Link

variable {link : Link}

/-- A remark is kept as it was entered. -/
theorem words_eq_input {words : String} (denoted : link.quantity = Quantity.ofInput? link.input)
    (trimmed : Text.Trimmed link.input) (isText : link.quantity = some (.text words)) :
    words = link.input := by
  have same := Quantity.eq_trim_of_ofInput? (denoted.symm.trans isText)
  rwa [Text.trim_of_trimmed trimmed] at same

theorem readQuantity_columns (denoted : link.quantity = Quantity.ofInput? link.input)
    (trimmed : Text.Trimmed link.input) :
    readQuantity link.numberColumn link.textColumn = .ok link.quantity := by
  cases isQuantity : link.quantity with
  | none =>
    rw [numberColumn, textColumn, isQuantity]
    rfl
  | some quantity =>
    rw [numberColumn, textColumn, isQuantity]
    cases quantity with
    | numeric x =>
      have finite := Quantity.isFinite_of_ofInput? (denoted.symm.trans isQuantity)
      simp only [readQuantity, Cell.toQuantity?, finite, if_true]
      rfl
    | text words =>
      obtain rfl := words_eq_input denoted trimmed isQuantity
      simp only [readQuantity, Cell.toQuantity?, Option.bind_some, ← denoted, isQuantity]
      rfl

theorem enteredText_columns (denoted : link.quantity = Quantity.ofInput? link.input)
    (trimmed : Text.Trimmed link.input) :
    enteredText link.quantity link.textColumn = link.quantity.map fun _ => link.input := by
  cases isQuantity : link.quantity with
  | none => rfl
  | some quantity =>
    have reads : Quantity.ofInput? link.input = some quantity := denoted.symm.trans isQuantity
    rw [textColumn, isQuantity]
    cases quantity with
    | numeric x =>
      have finite := Quantity.isFinite_of_ofInput? reads
      simp only [enteredText, Text.trim_of_trimmed trimmed, reads, Quantity.same,
        Binary64.same_self_of_isFinite finite, if_true, Option.map_some]
    | text words =>
      obtain rfl := words_eq_input denoted trimmed isQuantity
      simp only [enteredText, Text.trim_of_trimmed trimmed, reads, Quantity.same, beq_self_eq_true,
        if_true, Option.map_some]

end Link

/-! ## What is referred to -/

namespace Inventory

/-- What is kept of a material that is there. -/
def materialOf (inv : Inventory) (id : EntityId) : StoredMaterial :=
  (inv.materials.get? id).getD { unitId := 0, description := "" }

/-- What is kept of a product that is there. -/
def productOf (inv : Inventory) (id : EntityId) : StoredProduct :=
  (inv.products.get? id).getD { name := "", description := "" }

/-- The unit in which a material is measured. -/
def unitOf (inv : Inventory) (record : StoredMaterial) : MeasureUnit :=
  (inv.units.get? record.unitId).getD { id := record.unitId, name := "" }

variable {inv : Inventory} {id : EntityId} {record : StoredMaterial} {link : Link}

theorem get?_materialOf (present : id ∈ inv.materials.ids) :
    inv.materials.get? id = some (inv.materialOf id) := by
  obtain ⟨record, found⟩ := Table.mem_ids_iff.1 present
  rw [materialOf, found, Option.getD_some]

theorem storedMaterial_materialOf (present : id ∈ inv.materials.ids) :
    inv.storedMaterial id = .ok (inv.materialOf id) :=
  storedMaterial_eq_ok.2 (get?_materialOf present)

theorem storedProduct_productOf (present : id ∈ inv.products.ids) :
    inv.storedProduct id = .ok (inv.productOf id) := by
  obtain ⟨record, found⟩ := Table.mem_ids_iff.1 present
  rw [storedProduct, productOf, found, Option.getD_some]

theorem Valid.unit_unitOf (valid : inv.Valid) (found : inv.materials.get? id = some record) :
    inv.unit record.unitId = .ok (inv.unitOf record) := by
  obtain ⟨unit, measured⟩ := Table.mem_ids_iff.1 (valid.measured id record found)
  rw [Inventory.unit, unitOf, measured, Option.getD_some]

/-! ## Rows of single entries -/

/-- The row for the product of a link. -/
def useRowOf (inv : Inventory) (link : Link) : UseRow :=
  { productId := link.productId
    name := (inv.productOf link.productId).name
    description := some (inv.productOf link.productId).description
    quantity := link.numberColumn
    quantityText := link.textColumn }

/-- The product of a link, as the material shows it. -/
def useOf (inv : Inventory) (link : Link) : Product :=
  ((Product.new link.productId (inv.productOf link.productId).name).withDescription
    (inv.productOf link.productId).description).withQuantity link.quantity

/-- The row for the material of a link. -/
def partRowOf (inv : Inventory) (link : Link) : PartRow :=
  let record := inv.materialOf link.materialId
  { materialId := link.materialId
    materialName := inv.shownName link.materialId
    unitId := (inv.unitOf record).id
    unitName := (inv.unitOf record).name
    description := some record.description
    quantity := link.numberColumn
    quantityText := link.textColumn }

/-- The material of a link, as the product shows it. -/
def partOf (inv : Inventory) (link : Link) : Material :=
  let record := inv.materialOf link.materialId
  { ((Material.new link.materialId (inv.unitOf record)).markPrimary
      (inv.shownName link.materialId)).withDescription record.description with
    quantity := link.quantity
    quantityInput := link.quantity.map fun _ => link.input }

@[simp] theorem id_partOf (inv : Inventory) (link : Link) :
    (inv.partOf link).id = link.materialId :=
  Material.id_markPrimary _

namespace Valid

/-- The columns of a link read back as its quantity. -/
theorem readQuantity_link (valid : inv.Valid) (member : link ∈ inv.links) :
    readQuantity link.numberColumn link.textColumn = .ok link.quantity :=
  Link.readQuantity_columns (valid.entered link member).1 (valid.entered link member).2

/-- The text column of a link reads back as what was entered. -/
theorem enteredText_link (valid : inv.Valid) (member : link ∈ inv.links) :
    enteredText link.quantity link.textColumn = link.quantity.map fun _ => link.input :=
  Link.enteredText_columns (valid.entered link member).1 (valid.entered link member).2

theorem useRow_useRowOf (valid : inv.Valid) (member : link ∈ inv.links) :
    inv.useRow link = .ok (inv.useRowOf link) := by
  rw [useRow, storedProduct_productOf (valid.linked link member).1]
  rfl

theorem product_useRowOf (valid : inv.Valid) (member : link ∈ inv.links) :
    (inv.useRowOf link).product = .ok (inv.useOf link) := by
  rw [UseRow.product, useRowOf, valid.readQuantity_link member]
  rfl

theorem partRow_partRowOf (valid : inv.Valid) (member : link ∈ inv.links) :
    inv.partRow link = .ok (inv.partRowOf link) := by
  have present := (valid.linked link member).2
  rw [partRow, storedMaterial_materialOf present, ok_bind,
    valid.unit_unitOf (get?_materialOf present)]
  rfl

theorem material_partRowOf (valid : inv.Valid) (member : link ∈ inv.links) :
    (inv.partRowOf link).material = .ok (inv.partOf link) := by
  rw [PartRow.material, partRowOf, valid.readQuantity_link member, ok_bind,
    valid.enteredText_link member]
  rfl

end Valid

/-! ## Rows of lists -/

/-- The columns of the list of materials that do not change from row to row. -/
def materialStart (inv : Inventory) (id : EntityId) (record : StoredMaterial) : MaterialRow :=
  (MaterialRow.new id (inv.unitOf record)).withDescription record.description

/-- The row for a name of a material and one of its links, if it has any. -/
def materialRowOf (inv : Inventory) (id : EntityId) (record : StoredMaterial)
    (pair : MarkedName × Option Link) : MaterialRow :=
  let row := (inv.materialStart id record).forName pair.1.name pair.1.isPrimary
  match pair.2 with
  | none => row
  | some link =>
    { row.forProduct link.productId (inv.productOf link.productId).name with
      quantity := link.numberColumn
      quantityText := link.textColumn }

/-- Every name of a material with every link of it. -/
def namedUses (inv : Inventory) (id : EntityId) : List (MarkedName × Option Link) :=
  (inv.storedNames id).flatMap fun name => (orGap (inv.usesOf id)).map fun link => (name, link)

/-- The columns of the list of products that do not change from row to row. -/
def productStart (id : EntityId) (record : StoredProduct) : ProductRow :=
  (ProductRow.new id record.name).withDescription record.description

/-- The row for a link of a product, if it has any. -/
def productRowOf (inv : Inventory) (start : ProductRow) : Option Link → ProductRow
  | none => start
  | some link =>
    { start.forMaterial link.materialId (inv.shownName link.materialId)
        (inv.unitOf (inv.materialOf link.materialId)) with
      quantity := link.numberColumn
      quantityText := link.textColumn }

theorem exists_orGap_eq {α : Type} (entries : List α) :
    ∃ rest, orGap entries = entries.head? :: rest := by
  cases entries with
  | nil => exact ⟨[], rfl⟩
  | cons first rest => exact ⟨rest.map some, rfl⟩

theorem reduceOption_orGap {α : Type} (entries : List α) :
    (orGap entries).reduceOption = entries := by
  cases entries <;> simp [orGap, List.reduceOption]

theorem mem_of_some_mem_orGap {α : Type} {entries : List α} {entry : α}
    (member : some entry ∈ orGap entries) : entry ∈ entries := by
  cases entries with
  | nil => simp [orGap] at member
  | cons first rest => simpa [orGap] using member

theorem mem_of_mem_namedUses {pair : MarkedName × Option Link} (member : pair ∈ inv.namedUses id) :
    ∀ link ∈ pair.2, link ∈ inv.links := by
  intro link isSome
  obtain ⟨name, -, paired⟩ := List.mem_flatMap.1 member
  obtain ⟨gap, inside, rfl⟩ := List.mem_map.1 paired
  obtain rfl : gap = some link := isSome
  exact (List.mem_filter.1 (mem_of_some_mem_orGap inside)).1

namespace Valid

/-- A material that is there has names, so its rows have no gap among them. -/
theorem orGap_storedNames (valid : inv.Valid) (present : id ∈ inv.materials.ids) :
    orGap (inv.storedNames id) = (inv.storedNames id).map some := by
  obtain ⟨names, found⟩ := Table.mem_ids_iff.1 (valid.named ▸ present)
  have nonempty := valid.nonempty id names found
  rw [storedNames, found, Option.getD_some, orGap, if_neg (by simpa using nonempty)]

theorem materialRow_materialRowOf (valid : inv.Valid) {pair : MarkedName × Option Link}
    (member : ∀ link ∈ pair.2, link ∈ inv.links) :
    inv.materialRow (inv.materialStart id record) (some pair.1) pair.2 =
      .ok (inv.materialRowOf id record pair) := by
  obtain ⟨name, link⟩ := pair
  cases link with
  | none => rfl
  | some link =>
    have product := storedProduct_productOf (valid.linked link (member link rfl)).1
    simp only [materialRow, product, ok_bind]
    rfl

theorem rowsOfMaterial_eq_ok (valid : inv.Valid) (found : inv.materials.get? id = some record) :
    inv.rowsOfMaterial id record =
      .ok ((inv.namedUses id).map (inv.materialRowOf id record)) := by
  have pairs : ((inv.storedNames id).map some).flatMap (fun name =>
      (orGap (inv.usesOf id)).map fun link => (name, link)) =
      (inv.namedUses id).map fun pair => (some pair.1, pair.2) := by
    simp only [namedUses, List.flatMap_map, List.map_flatMap, List.map_map, Function.comp_def]
  simp only [rowsOfMaterial, valid.unit_unitOf found, ok_bind,
    valid.orGap_storedNames (Table.mem_ids_of_get? found), pairs, List.mapM_map]
  exact mapM_eq_ok fun pair member =>
    valid.materialRow_materialRowOf (mem_of_mem_namedUses member)

theorem materialRows_eq_ok (valid : inv.Valid) :
    inv.materialRows = .ok (inv.materials.entries.map fun entry =>
      (inv.namedUses entry.1).map (inv.materialRowOf entry.1 entry.2)).flatten := by
  have rows : (inv.materials.entries.mapM fun entry => inv.rowsOfMaterial entry.1 entry.2) =
      .ok (inv.materials.entries.map fun entry =>
        (inv.namedUses entry.1).map (inv.materialRowOf entry.1 entry.2)) :=
    mapM_eq_ok fun _ member => valid.rowsOfMaterial_eq_ok (Table.get?_eq_some_iff.2 member)
  rw [materialRows, rows]
  rfl

theorem productRow_productRowOf (valid : inv.Valid) (start : ProductRow)
    (member : link ∈ inv.links) :
    inv.productRow start link = .ok (inv.productRowOf start (some link)) := by
  have present := (valid.linked link member).2
  rw [productRow, storedMaterial_materialOf present, ok_bind,
    valid.unit_unitOf (get?_materialOf present)]
  rfl

theorem rowsOfProduct_eq_ok (valid : inv.Valid) (id : EntityId) (record : StoredProduct) :
    inv.rowsOfProduct id record =
      .ok ((orGap (inv.partsOf id)).map (inv.productRowOf (productStart id record))) := by
  have rows : (inv.partsOf id).mapM (inv.productRow (productStart id record)) =
      .ok ((inv.partsOf id).map fun link => inv.productRowOf (productStart id record) (some link)) :=
    mapM_eq_ok fun _ member => valid.productRow_productRowOf _ (List.mem_filter.1 member).1
  unfold rowsOfProduct
  cases parts : inv.partsOf id with
  | nil => rfl
  | cons first rest =>
    rw [parts] at rows
    rw [orGap, List.isEmpty_cons, if_neg Bool.false_ne_true, List.map_map]
    exact rows

theorem productRows_eq_ok (valid : inv.Valid) :
    inv.productRows = .ok (inv.products.entries.map fun entry =>
      (orGap (inv.partsOf entry.1)).map
        (inv.productRowOf (productStart entry.1 entry.2))).flatten := by
  have rows : (inv.products.entries.mapM fun entry => inv.rowsOfProduct entry.1 entry.2) =
      .ok (inv.products.entries.map fun entry =>
        (orGap (inv.partsOf entry.1)).map (inv.productRowOf (productStart entry.1 entry.2))) :=
    mapM_eq_ok fun entry _ => valid.rowsOfProduct_eq_ok entry.1 entry.2
  rw [productRows, rows]
  rfl

end Valid

end Inventory

end PartsCatalog
