import PartsCatalog.Proofs.Grouping
import PartsCatalog.Proofs.Quantity

/-!
# Materials picked out of rows

Rows are grouped in one pass that fills many materials at a time.  The same materials can be picked
out of the rows one by one, and field by field (`Material.ofRows`): what a material has once from
the first of its rows, its names and products from all of them.  Both agree wherever no row is
malformed; and otherwise the first malformed row tells the fault (`materials_are_picked_out`).  One
material that is looked up alone is put together in the same way (`MaterialEntry.assemble_eq_ok`).
-/

namespace PartsCatalog

namespace MaterialRow

/-! ## Malformed rows -/

/-- What is wrong with a row, the first of three checks that it does not pass. -/
inductive Malformed (row : MaterialRow) : Fault → Prop
  /-- The number column of the quantity holds no number. -/
  | quantity {fault : Fault} (unread : row.quantity.toQuantity? "quantity" = .error fault) :
    Malformed row fault
  /-- The product column holds no identifier. -/
  | productId {fault : Fault} {quantity : Option Quantity}
    (read : row.quantity.toQuantity? "quantity" = .ok quantity)
    (unread : row.productId.toId? "product_id" = .error fault) : Malformed row fault
  /-- The product has an identifier and no name. -/
  | productName {quantity : Option Quantity} {id : EntityId}
    (read : row.quantity.toQuantity? "quantity" = .ok quantity)
    (isProduct : row.productId.toId? "product_id" = .ok (some id))
    (unnamed : row.productName = none) : Malformed row (.productNameMissing row.materialId)

/-! ## Columns of rows -/

/-- The quantity of a row. -/
def statedQuantity (row : MaterialRow) : Option Quantity :=
  PartsCatalog.statedQuantity row.quantity row.quantityText

/-- The product of a row, if it has one. -/
def statedProduct? (row : MaterialRow) : Option Product :=
  (row.productId.toId? "product_id").toOption.join.map fun id =>
    (Product.new id (row.productName.getD "")).withQuantity row.statedQuantity

/-- The name of a row, if it has one, with its mark. -/
def markedName? (row : MaterialRow) : Option MarkedName :=
  row.name.map fun name => { name, isPrimary := row.isPrimary }

end MaterialRow

/-- The material of the rows of one identifier. -/
def Material.ofRows (first : MaterialRow) (rest : List MaterialRow) : Material :=
  let rows := first :: rest
  { id := first.materialId
    names := ((rows.filterMap (·.name)).filter (!·.isEmpty)).eraseDups
    primaryName :=
      (((rows.filter (·.isPrimary)).filterMap (·.name)).find? (!·.isEmpty)).getD ""
    unit := { id := first.unitId, name := first.unitName }
    description := first.description.getD ""
    quantity := first.statedQuantity
    quantityInput := enteredText first.statedQuantity first.quantityText
    products := firstOfEach Product.id (rows.filterMap (·.statedProduct?)) }

namespace MaterialRow

variable {row : MaterialRow} {rows : List MaterialRow} {fault : Fault} {m : Material}

/-! ## One row -/

theorem addTo_eq_error (malformed : row.Malformed fault) (done : List Material) :
    addTo done row = .error fault := by
  rw [addTo, readQuantity_eq]
  cases malformed with
  | quantity unread =>
    rw [unread]
    rfl
  | productId read unread =>
    rw [read, Except.map, ok_bind, product?, unread]
    rfl
  | productName read isProduct unnamed =>
    rw [read, Except.map, ok_bind, product?, isProduct, ok_bind, unnamed]
    rfl

theorem addTo_eq_ok (sound : ∀ fault, ¬ row.Malformed fault) (done : List Material) :
    addTo done row = .ok (updateOrAppend Material.id row.materialId (row.merge row.statedProduct?)
      (row.merge row.statedProduct? (row.start row.statedQuantity)) done) := by
  rw [addTo, readQuantity_eq]
  cases read : row.quantity.toQuantity? "quantity" with
  | error fault => exact absurd (.quantity read) (sound fault)
  | ok quantity =>
    rw [Except.map, ok_bind, product?, statedProduct?]
    cases isProduct : row.productId.toId? "product_id" with
    | error fault => exact absurd (.productId read isProduct) (sound fault)
    | ok id =>
      cases id with
      | none => rfl
      | some id =>
        cases named : row.productName with
        | none => exact absurd (.productName read isProduct named) (sound _)
        | some name => rfl

/-! ## The rows of one material -/

theorem foldl_merge (rows : List MaterialRow) (m : Material) :
    rows.foldl (fun m row => row.merge row.statedProduct? m) m =
      (rows.filterMap (·.statedProduct?)).foldl Material.addProduct
        ((rows.filterMap (·.markedName?)).foldl Material.addMarked m) := by
  induction rows generalizing m with
  | nil => rfl
  | cons row rows ih =>
    rw [List.foldl_cons, ih, List.filterMap_cons, List.filterMap_cons, markedName?]
    unfold merge
    cases row.name <;> cases row.statedProduct? <;>
      simp only [Option.map_none, Option.map_some, List.foldl_cons,
        Material.foldl_addMarked_addProduct]

/-- The names of rows are the different ones among those that are not empty. -/
theorem fst_collect (rows : List MaterialRow) :
    (MarkedName.collect (rows.filterMap (·.markedName?))).1 =
      ((rows.filterMap (·.name)).filter (!·.isEmpty)).eraseDups := by
  have names : (rows.filterMap (·.markedName?)).map (·.name) = rows.filterMap (·.name) := by
    rw [List.map_filterMap]
    congr 1
    funext row
    rw [markedName?, Option.map_map]
    exact Option.map_id'
  rw [MarkedName.fst_collect, names, firstOccurrences_eq_eraseDups]

/-- The primary name of rows is the first marked one that is not empty. -/
theorem snd_collect (rows : List MaterialRow) :
    (MarkedName.collect (rows.filterMap (·.markedName?))).2 =
      (((rows.filter (·.isPrimary)).filterMap (·.name)).find? (!·.isEmpty)).getD "" := by
  rw [MarkedName.collect, MarkedName.snd_foldl, if_pos rfl]
  congr 1
  induction rows with
  | nil => rfl
  | cons row rows ih =>
    rw [List.filter_cons]
    cases named : row.name with
    | none =>
      have unnamed : row.markedName? = none := by rw [markedName?, named, Option.map_none]
      rw [List.filterMap_cons_none unnamed, ih]
      split
      · rw [List.filterMap_cons_none named]
      · rfl
    | some name =>
      have isNamed : row.markedName? = some { name, isPrimary := row.isPrimary } := by
        rw [markedName?, named, Option.map_some]
      rw [List.filterMap_cons_some isNamed, List.find?_cons]
      cases row.isPrimary with
      | false => exact ih
      | true =>
        rw [if_pos rfl, List.filterMap_cons_some named, List.find?_cons, Bool.true_and]
        cases name.isEmpty with
        | false => rfl
        | true => exact ih

theorem foldl_merge_start (first : MaterialRow) (rest : List MaterialRow) :
    rest.foldl (fun m row => row.merge row.statedProduct? m)
        (first.merge first.statedProduct? (first.start first.statedQuantity)) =
      Material.ofRows first rest := by
  let start := first.start first.statedQuantity
  have named : ((first :: rest).filterMap (·.markedName?)).foldl Material.addMarked start =
      start.withNames (MarkedName.collect ((first :: rest).filterMap (·.markedName?))) :=
    Material.foldl_addMarked _
  change (first :: rest).foldl (fun m row => row.merge row.statedProduct? m) start = _
  rw [foldl_merge, named, Material.foldl_addProduct_of_nil rfl, Material.withNames, fst_collect,
    snd_collect]
  rfl

theorem id_merge (product : Option Product) : (row.merge product m).id = m.id := by
  unfold merge
  cases row.name <;> cases product <;>
    simp only [Material.id_addMarked, Material.id_addProduct]

end MaterialRow

/-! ## All rows -/

theorem MaterialRow.collects : Collects Material.id (·.materialId) MaterialRow.Malformed
    (fun row => row.merge row.statedProduct?)
    (fun row => row.merge row.statedProduct? (row.start row.statedQuantity)) MaterialRow.addTo where
  fails := addTo_eq_error
  adds := addTo_eq_ok
  atKey _ := id_merge _
  keeps _ _ := id_merge _

/-- Rows of which none is malformed make one material of every identifier. -/
theorem groupMaterials_eq_ok {rows : List MaterialRow}
    (sound : ∀ row ∈ rows, ∀ fault, ¬ row.Malformed fault) :
    groupMaterials rows = .ok (entriesBy (·.materialId) Material.ofRows rows) := by
  rw [groupMaterials, MaterialRow.collects.eq_ok sound]
  congr 2
  funext first rest
  exact MaterialRow.foldl_merge_start first rest

/-- A listed material is made of the rows of its identifier, and no row of the list is malformed. -/
theorem exists_rows_of_mem_groupMaterials {rows : List MaterialRow} {ms : List Material}
    {m : Material} (grouped : groupMaterials rows = .ok ms) (member : m ∈ ms) :
    (∀ row ∈ rows, ∀ fault, ¬ row.Malformed fault) ∧ ∃ first rest,
      m = Material.ofRows first rest ∧
      rows.filter (·.materialId == first.materialId) = first :: rest := by
  have sound := sound_of_eq_ok grouped fun fault =>
    (MaterialRow.collects.eq_error_iff rows fault).2
  rw [groupMaterials_eq_ok sound] at grouped
  obtain rfl := Except.ok.inj grouped
  exact ⟨sound, exists_of_mem_entriesBy member⟩

/-- **Grouping rows is picking materials out of them.**  It fails exactly where a row is malformed,
with the fault of the first such row.  Otherwise there is one material of every identifier, in the
order in which the identifiers first come: its unit, description and quantity are those of its first
row, its names the different ones of its rows that are not empty, its primary name the first marked
one, and its products the first of every identifier.  So a material stays the same whatever the rows
of other materials are and wherever they stand. -/
theorem materials_are_picked_out (rows : List MaterialRow) :
    ((∃ fault, groupMaterials rows = .error fault) ↔
      ∃ row ∈ rows, ∃ fault, row.Malformed fault) ∧
    (∀ fault, groupMaterials rows = .error fault ↔
      FirstFault MaterialRow.Malformed rows fault) ∧
    ((∀ row ∈ rows, ∀ fault, ¬ row.Malformed fault) →
      groupMaterials rows = .ok (entriesBy (·.materialId) Material.ofRows rows)) ∧
    ∀ (others : List MaterialRow) (materials otherMaterials : List Material) (id : EntityId),
      groupMaterials rows = .ok materials → groupMaterials others = .ok otherMaterials →
      rows.filter (·.materialId == id) = others.filter (·.materialId == id) →
      materials.find? (·.id == id) = otherMaterials.find? (·.id == id) := by
  refine ⟨MaterialRow.collects.exists_error_iff rows, MaterialRow.collects.eq_error_iff rows,
    groupMaterials_eq_ok, ?_⟩
  intro others materials otherMaterials id grouped grouped' same
  exact MaterialRow.collects.find?_eq grouped grouped' same

/-! ## One material -/

namespace UseRow

/-- What is wrong with a use: the number column of its quantity holds no number. -/
def Malformed (use : UseRow) (fault : Fault) : Prop :=
  use.quantity.toQuantity? "quantity" = .error fault

/-- The product of a use. -/
def statedProduct (use : UseRow) : Product :=
  { id := use.productId
    name := use.name
    description := use.description.getD ""
    quantity := statedQuantity use.quantity use.quantityText
    materials := [] }

variable {use : UseRow}

theorem product_eq_error_iff (use : UseRow) (fault : Fault) :
    use.product = .error fault ↔ use.Malformed fault := by
  rw [product, readQuantity_eq, Malformed]
  cases use.quantity.toQuantity? "quantity" <;> simp [Except.map, bind, Except.bind, pure,
    Except.pure]

theorem product_eq_ok (sound : ∀ fault, ¬ use.Malformed fault) :
    use.product = .ok use.statedProduct := by
  rw [product, readQuantity_eq]
  cases read : use.quantity.toQuantity? "quantity" with
  | error fault => exact absurd read (sound fault)
  | ok quantity => rfl

end UseRow

namespace MaterialEntry

variable {uses : List UseRow}

/-- The material of an entry with its names and the first use of every product. -/
def withUses (entry : MaterialEntry) (names : List MarkedName) (uses : List UseRow) : Material :=
  { id := entry.materialId
    names := (MarkedName.collect names).1
    primaryName := (MarkedName.collect names).2
    unit := { id := entry.unitId, name := entry.unitName }
    description := entry.description.getD ""
    quantity := none
    quantityInput := none
    products := (firstOfEach (·.productId) uses).map (·.statedProduct) }

/-- Every use is read, also where its product came before. -/
theorem assemble_eq_error_iff (entry : MaterialEntry) (names : List MarkedName) (fault : Fault) :
    entry.assemble names uses = .error fault ↔ FirstFault UseRow.Malformed uses fault := by
  refine foldlM_eq_error_iff (fun m use fault => ?_) _
  rw [← UseRow.product_eq_error_iff]
  cases use.product <;> simp [bind, Except.bind, pure, Except.pure]

theorem assemble_eq_ok (entry : MaterialEntry) (names : List MarkedName)
    (sound : ∀ use ∈ uses, ∀ fault, ¬ use.Malformed fault) :
    entry.assemble names uses = .ok (entry.withUses names uses) := by
  have adds : ∀ m : Material, ∀ use ∈ uses,
      (do return m.addProduct (← use.product) : Except Fault Material) =
        .ok (m.addProduct use.statedProduct) := by
    intro m use member
    rw [UseRow.product_eq_ok (sound use member)]
    rfl
  rw [assemble, foldlM_eq_ok adds, Material.foldl_addMarked, ← List.foldl_map,
    Material.foldl_addProduct_of_nil rfl, firstOfEach_map]
  rfl

end MaterialEntry

end PartsCatalog
