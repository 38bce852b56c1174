import PartsCatalog.Proofs.Grouping.Products

/-!
# One product and the list of products

A product that is looked up alone is put together from the rows of its parts, and in a list it is
grouped from rows that say the same of it.  A part whose material came before is passed over in the
first case without being read, and is read in the second.  So the two agree as long as no such part
is malformed, and then up to the descriptions of the materials, which lists leave out
(`list_reads_every_part`).
-/

namespace PartsCatalog

/-! ## Parts of a product -/

namespace PartRow

/-- What is wrong with a part: the number column of its quantity holds no number. -/
def Malformed (part : PartRow) (fault : Fault) : Prop :=
  part.quantity.toQuantity? "quantity" = .error fault

/-- The quantity of a part. -/
def statedQuantity (part : PartRow) : Option Quantity :=
  PartsCatalog.statedQuantity part.quantity part.quantityText

/-- The material of a part. -/
def statedMaterial (part : PartRow) : Material :=
  { id := part.materialId
    names := [part.materialName].filter (!·.isEmpty)
    primaryName := part.materialName
    unit := { id := part.unitId, name := part.unitName }
    description := part.description.getD ""
    quantity := part.statedQuantity
    quantityInput := enteredText part.statedQuantity part.quantityText
    products := [] }

end PartRow

namespace ProductEntry

/-- The product of an entry with the first part of every material. -/
def withParts (entry : ProductEntry) (parts : List PartRow) : Product :=
  { id := entry.productId
    name := entry.name
    description := entry.description.getD ""
    quantity := none
    materials := (firstOfEach (·.materialId) parts).map (·.statedMaterial) }

/-- A row of a list that says what the entry of a product and one of its parts say.  The identifiers
may come in any form. -/
structure ListsPart (entry : ProductEntry) (part : PartRow) (row : ProductRow) : Prop where
  productId : row.productId = entry.productId
  name : row.name = entry.name
  description : row.description = entry.description
  materialId : row.materialId.toId? "material_id" = .ok (some part.materialId)
  materialName : row.materialName = some part.materialName
  unitId : row.unitId.toId? "unit_id" = .ok (some part.unitId)
  unitName : row.unitName = some part.unitName
  quantity : row.quantity = part.quantity
  quantityText : row.quantityText = part.quantityText

/-- The rows of a list that say what the entry of a product and all its parts say: one row for every
part, or a row without a material where there is no part. -/
inductive Lists (entry : ProductEntry) : List PartRow → List ProductRow → Prop
  | none {row : ProductRow} (productId : row.productId = entry.productId)
    (name : row.name = entry.name) (description : row.description = entry.description)
    (noMaterial : row.materialId.toId? "material_id" = .ok none) : Lists entry [] [row]
  | parts {part : PartRow} {parts : List PartRow} {rows : List ProductRow}
    (listed : List.Forall₂ entry.ListsPart (part :: parts) rows) : Lists entry (part :: parts) rows

end ProductEntry

variable {entry : ProductEntry} {part : PartRow} {parts : List PartRow} {row : ProductRow}
  {rows : List ProductRow}

/-! ## Reading parts alone -/

theorem PartRow.material_eq (part : PartRow) :
    part.material = (part.quantity.toQuantity? "quantity").map fun _ => part.statedMaterial := by
  rw [material, readQuantity_eq]
  cases part.quantity.toQuantity? "quantity" with
  | error fault => rfl
  | ok quantity =>
    cases empty : part.materialName.isEmpty <;>
      simp [Except.map, Material.markPrimary_eq, Material.lacksName, Material.new,
        Material.withDescription, statedMaterial, statedQuantity, empty]

theorem PartRow.material_eq_error_iff (part : PartRow) (fault : Fault) :
    part.material = .error fault ↔ part.Malformed fault := by
  rw [material_eq, Malformed]
  cases part.quantity.toQuantity? "quantity" <;> simp [Except.map]

theorem PartRow.material_eq_ok (sound : ∀ fault, ¬ part.Malformed fault) :
    part.material = .ok part.statedMaterial := by
  rw [material_eq]
  cases read : part.quantity.toQuantity? "quantity" with
  | error fault => exact absurd read (sound fault)
  | ok quantity => rfl

/-- Whether the material of a part is not yet in a product. -/
def PartRow.isNewTo (part : PartRow) (p : Product) : Bool := (p.material? part.materialId).isNone

theorem PartRow.isNewTo_addMaterial {p : Product} {m : Material} (new : p.material? m.id = none) :
    part.isNewTo (p.addMaterial m) = (part.isNewTo p && part.materialId != m.id) := by
  have absent : m.id ∉ p.materials.map Material.id := find?_key_eq_none_iff.1 new
  rw [Product.addMaterial_of_not_mem absent, isNewTo, isNewTo, Product.material?, Product.material?,
    List.find?_append, Option.isNone_or]
  by_cases same : m.id = part.materialId <;> simp [same, Ne.symm]

theorem filter_isNewTo_addMaterial {p : Product} {m : Material} (new : p.material? m.id = none)
    (parts : List PartRow) :
    parts.filter (·.isNewTo (p.addMaterial m)) =
      (parts.filter (·.isNewTo p)).filter (·.materialId != m.id) := by
  rw [List.filter_filter]
  refine List.filter_congr fun part _ => ?_
  rw [PartRow.isNewTo_addMaterial new, Bool.and_comm]

/-- The first part of every new material is read, and the other parts are not. -/
theorem foldlM_addTo (parts : List PartRow) (p : Product) :
    parts.foldlM PartRow.addTo p =
      ((firstOfEach (·.materialId) (parts.filter (·.isNewTo p))).mapM PartRow.material).map
        fun ms => { p with materials := p.materials ++ ms } := by
  -- every part that is read makes fewer parts new, so the product changes along the way
  induction parts generalizing p with
  | nil =>
    change Except.ok p = Except.ok { p with materials := p.materials ++ [] }
    rw [List.append_nil]
    cases p
    rfl
  | cons part parts ih =>
    rw [List.foldlM_cons, PartRow.addTo]
    cases known : p.material? part.materialId with
    | some m =>
      rw [Option.isSome_some, if_pos rfl,
        List.filter_cons_of_neg (by simp [PartRow.isNewTo, known])]
      exact ih p
    | none =>
      rw [Option.isSome_none, if_neg Bool.false_ne_true,
        List.filter_cons_of_pos (by simp [PartRow.isNewTo, known]), firstOfEach_cons,
        List.mapM_cons]
      by_cases sound : ∀ fault, ¬ part.Malformed fault
      · have absent : part.statedMaterial.id ∉ p.materials.map Material.id :=
          find?_key_eq_none_iff.1 known
        have others : parts.filter (·.isNewTo (p.addMaterial part.statedMaterial)) =
            (parts.filter (·.isNewTo p)).filter (·.materialId != part.materialId) :=
          filter_isNewTo_addMaterial known parts
        rw [PartRow.material_eq_ok sound, ok_bind, ok_bind]
        refine (ih _).trans ?_
        rw [others, Product.addMaterial_of_not_mem absent]
        cases (firstOfEach (·.materialId)
            ((parts.filter (·.isNewTo p)).filter (·.materialId != part.materialId))).mapM
              PartRow.material with
        | error fault => rfl
        | ok ms =>
          simp only [Except.map, List.append_assoc]
          rfl
      · obtain ⟨fault, malformed⟩ := not_forall_not.1 sound
        rw [(PartRow.material_eq_error_iff part fault).2 malformed]
        rfl

theorem ProductEntry.assemble_eq (entry : ProductEntry) (parts : List PartRow) :
    entry.assemble parts = ((firstOfEach (·.materialId) parts).mapM PartRow.material).map
      fun ms => { entry.withParts [] with materials := ms } := by
  have allNew : parts.filter (·.isNewTo (entry.withParts [])) = parts :=
    List.filter_eq_self.2 fun _ _ => rfl
  refine (foldlM_addTo parts (entry.withParts [])).trans ?_
  rw [allNew]
  rfl

theorem ProductEntry.assemble_eq_error_iff (entry : ProductEntry) (parts : List PartRow)
    (fault : Fault) :
    entry.assemble parts = .error fault ↔
      FirstFault PartRow.Malformed (firstOfEach (·.materialId) parts) fault := by
  rw [← mapM_eq_error_iff PartRow.material_eq_error_iff, assemble_eq]
  cases (firstOfEach (·.materialId) parts).mapM PartRow.material <;> simp [Except.map]

theorem ProductEntry.assemble_eq_ok (entry : ProductEntry)
    (sound : ∀ part ∈ firstOfEach (·.materialId) parts, ∀ fault, ¬ part.Malformed fault) :
    entry.assemble parts = .ok (entry.withParts parts) := by
  have read := mapM_eq_ok fun part member => PartRow.material_eq_ok (sound part member)
  rw [assemble_eq, read]
  rfl

/-! ## Rows of a list -/

theorem ProductRow.not_malformed (noMaterial : row.materialId.toId? "material_id" = .ok none)
    (fault : Fault) : ¬ row.Malformed fault := by
  rintro (unread | ⟨isMaterial, -⟩ | ⟨isMaterial, -⟩ | ⟨isMaterial, -, -⟩)
  · rw [noMaterial] at unread
    cases unread
  all_goals
    rw [noMaterial] at isMaterial
    cases isMaterial

theorem ProductRow.statedMaterial?_eq_none
    (noMaterial : row.materialId.toId? "material_id" = .ok none) : row.statedMaterial? = none := by
  rw [statedMaterial?, noMaterial]
  rfl

namespace ProductEntry

theorem ListsPart.malformed_iff (lists : entry.ListsPart part row) (fault : Fault) :
    row.Malformed fault ↔ part.Malformed fault := by
  rw [PartRow.Malformed, ← lists.quantity]
  constructor
  · rintro (unread | ⟨-, unread⟩ | ⟨-, missing⟩ | ⟨-, -, unread⟩)
    · rw [lists.materialId] at unread
      cases unread
    · rw [lists.unitId] at unread
      cases unread
    · rw [lists.unitId] at missing
      cases missing
    · exact unread
  · intro unread
    exact .quantity lists.materialId lists.unitId unread

theorem ListsPart.statedMaterial?_eq (lists : entry.ListsPart part row) :
    row.statedMaterial? = some (part.statedMaterial.withDescription "") := by
  rw [ProductRow.statedMaterial?, lists.materialId, lists.unitId]
  simp [ProductRow.materialNames, ProductRow.statedQuantity, lists.materialName, lists.unitName,
    lists.quantity, lists.quantityText, Except.toOption, PartRow.statedMaterial,
    PartRow.statedQuantity, Material.withDescription]

theorem filterMap_statedMaterial? (listed : List.Forall₂ entry.ListsPart parts rows) :
    rows.filterMap (·.statedMaterial?) =
      parts.map fun part => part.statedMaterial.withDescription "" := by
  induction listed with
  | nil => rfl
  | cons first _ ih =>
    rw [List.filterMap_cons_some first.statedMaterial?_eq, ih, List.map_cons]

theorem productId_of_mem (listed : List.Forall₂ entry.ListsPart parts rows) :
    ∀ row ∈ rows, row.productId = entry.productId := by
  induction listed with
  | nil => exact List.forall_mem_nil _
  | cons first _ ih => exact List.forall_mem_cons.2 ⟨first.productId, ih⟩

theorem Lists.firstFault_iff (lists : entry.Lists parts rows) (fault : Fault) :
    FirstFault ProductRow.Malformed rows fault ↔ FirstFault PartRow.Malformed parts fault := by
  cases lists with
  | none _ _ _ noMaterial =>
    refine iff_of_false (fun first => ?_) not_firstFault_nil
    rcases firstFault_cons.1 first with malformed | ⟨-, rest⟩
    · exact ProductRow.not_malformed noMaterial fault malformed
    · exact not_firstFault_nil rest
  | parts listed =>
    exact (firstFault_congr (listed.imp fun _ _ lists fault =>
      (lists.malformed_iff fault).symm)).symm

/-- Rows that list a product with its parts group into the product with the first part of every
material. -/
theorem Lists.groupProducts_eq_ok (lists : entry.Lists parts rows)
    (sound : ∀ part ∈ parts, ∀ fault, ¬ part.Malformed fault) :
    groupProducts rows = .ok [(entry.withParts parts).asListed] := by
  have soundRows : ∀ row ∈ rows, ∀ fault, ¬ row.Malformed fault :=
    not_firstFault_iff.1 fun fault first =>
      not_firstFault_iff.2 sound fault ((lists.firstFault_iff fault).1 first)
  rw [PartsCatalog.groupProducts_eq_ok soundRows]
  congr 1
  cases lists with
  | none productId name description noMaterial =>
    rw [entriesBy_of_forall_eq (List.forall_mem_nil _), Product.ofRows, productId, name,
      description, List.filterMap_cons_none (ProductRow.statedMaterial?_eq_none noMaterial)]
    rfl
  | parts listed =>
    obtain ⟨row, rows, first, others, rfl⟩ := List.forall₂_cons_left_iff.1 listed
    have sameProduct : ∀ other ∈ rows, other.productId = row.productId := fun other member =>
      (productId_of_mem others other member).trans first.productId.symm
    rw [entriesBy_of_forall_eq sameProduct, Product.ofRows, first.productId, first.name,
      first.description, filterMap_statedMaterial? listed, firstOfEach_map, Product.asListed,
      withParts, List.map_map]
    rfl

end ProductEntry

/-- **A list reads every part of a product, and looking the product up alone does not.**  Grouping
the rows of a list fails with the first fault of the parts, and assembling the entry with the first
fault of those parts that are the first of their materials.  Where grouping succeeds, so does
assembling, and the product is the same up to the descriptions of its materials.  So the two fail
together unless a part is malformed behind a sound one of its material, and no first part is. -/
theorem list_reads_every_part {entry : ProductEntry} {parts : List PartRow} {rows : List ProductRow}
    (lists : entry.Lists parts rows) :
    (∀ fault, groupProducts rows = .error fault ↔ FirstFault PartRow.Malformed parts fault) ∧
    (∀ fault, entry.assemble parts = .error fault ↔
      FirstFault PartRow.Malformed (firstOfEach (·.materialId) parts) fault) ∧
    (∀ products, groupProducts rows = .ok products →
      entry.assemble parts = .ok (entry.withParts parts) ∧
        products = [(entry.withParts parts).asListed]) ∧
    (((∃ fault, groupProducts rows = .error fault) ↔ ∃ fault, entry.assemble parts = .error fault) ↔
      ((∃ part ∈ parts, ∃ fault, part.Malformed fault) →
        ∃ part ∈ firstOfEach (·.materialId) parts, ∃ fault, part.Malformed fault)) := by
  have listFails : ∀ fault, groupProducts rows = .error fault ↔
      FirstFault PartRow.Malformed parts fault := fun fault =>
    (ProductRow.collects.eq_error_iff rows fault).trans (lists.firstFault_iff fault)
  have entryFails := entry.assemble_eq_error_iff parts
  refine ⟨listFails, entryFails, ?_, ?_⟩
  · intro products grouped
    have sound := sound_of_eq_ok grouped fun fault => (listFails fault).2
    rw [lists.groupProducts_eq_ok sound] at grouped
    exact ⟨entry.assemble_eq_ok fun part member => sound part (mem_of_mem_firstOfEach member),
      (Except.ok.inj grouped).symm⟩
  · simp only [listFails, entryFails, exists_firstFault_iff]
    refine ⟨Iff.mp, fun onward => ⟨onward, ?_⟩⟩
    rintro ⟨part, member, malformed⟩
    exact ⟨part, mem_of_mem_firstOfEach member, malformed⟩

/-! ## A ring of gold -/

/-- A product. -/
def ProductEntry.ring : ProductEntry := { productId := 1, name := "Ring", description := none }

/-- A part of the ring. -/
def PartRow.gold (quantity : Cell) : PartRow :=
  { materialId := 2, materialName := "Gold", unitId := 3, unitName := "kg", description := none
    quantity, quantityText := none }

/-- The row of a list that says the same. -/
def ProductRow.goldOfRing (quantity : Cell) : ProductRow :=
  ((new 1 "Ring").forMaterial 2 "Gold" { id := 3, name := "kg" }).withQuantity quantity

theorem ProductEntry.ring_listsPart (quantity : Cell) :
    ring.ListsPart (.gold quantity) (.goldOfRing quantity) :=
  ⟨rfl, rfl, rfl, rfl, rfl, rfl, rfl, rfl, rfl⟩

/-- Gold that is listed twice without a quantity comes once. -/
theorem gold_listed_twice :
    ProductEntry.ring.Lists [.gold .null, .gold .null] [.goldOfRing .null, .goldOfRing .null] ∧
      ProductEntry.ring.assemble [.gold .null, .gold .null] =
        .ok (ProductEntry.ring.withParts [.gold .null]) := by
  have lists : ProductEntry.ring.Lists [.gold .null, .gold .null]
      [.goldOfRing .null, .goldOfRing .null] :=
    .parts (.cons (ProductEntry.ring_listsPart .null)
      (.cons (ProductEntry.ring_listsPart .null) .nil))
  obtain ⟨-, -, agree, -⟩ := list_reads_every_part lists
  exact ⟨lists, (agree _ rfl).1⟩

/-- A quantity that is not a number is found only in the list, where it comes behind a sound one. -/
theorem gold_without_number :
    ¬ ∀ (entry : ProductEntry) (parts : List PartRow) (rows : List ProductRow),
      entry.Lists parts rows →
      ((∃ p, entry.assemble parts = .ok p) ↔ ∃ products, groupProducts rows = .ok products) ∧
        ∀ p products, entry.assemble parts = .ok p → groupProducts rows = .ok products →
          products = [p.asListed] := by
  intro agree
  have lists : ProductEntry.ring.Lists [.gold .null, .gold (.real .nan)]
      [.goldOfRing .null, .goldOfRing (.real .nan)] :=
    .parts (.cons (ProductEntry.ring_listsPart .null)
      (.cons (ProductEntry.ring_listsPart (.real .nan)) .nil))
  obtain ⟨products, grouped⟩ := (agree _ _ _ lists).1.1 ⟨_, rfl⟩
  have failed : groupProducts [.goldOfRing .null, .goldOfRing (.real .nan)] =
      .error (.cellNumberInvalid "quantity" .nan) := rfl
  rw [failed] at grouped
  cases grouped

end PartsCatalog
