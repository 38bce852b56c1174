import PartsCatalog.Inventory.Change
import PartsCatalog.Proofs.Inventory.Action
import PartsCatalog.Proofs.Table

/-!
# Effects of changes

`Effect` says once what each kind of change does when it succeeds: under which conditions it
succeeds, what it answers and which inventory it leaves.  What holds after every change is proved by
cases over `Effect`; the actions themselves are taken apart only here, in both directions
(`effect_of_run`, `run_of_effect`).
-/

namespace PartsCatalog

open PartsCatalog.Action

/-! ## What lookups say -/

namespace Inventory

variable {inv : Inventory} {id : EntityId}

theorem unit_eq_ok {unit : MeasureUnit} :
    inv.unit id = .ok unit ↔ inv.units.get? id = some unit := by
  unfold Inventory.unit
  cases inv.units.get? id <;> simp

theorem storedMaterial_eq_ok {record : StoredMaterial} :
    inv.storedMaterial id = .ok record ↔ inv.materials.get? id = some record := by
  unfold storedMaterial
  cases inv.materials.get? id <;> simp

theorem storedProduct_eq_ok {record : StoredProduct} :
    inv.storedProduct id = .ok record ↔ inv.products.get? id = some record := by
  unfold storedProduct
  cases inv.products.get? id <;> simp

theorem exists_storedMaterial :
    (∃ record, inv.storedMaterial id = .ok record) ↔ id ∈ inv.materials.ids := by
  simp only [storedMaterial_eq_ok, Table.mem_ids_iff]

theorem exists_storedProduct :
    (∃ record, inv.storedProduct id = .ok record) ↔ id ∈ inv.products.ids := by
  simp only [storedProduct_eq_ok, Table.mem_ids_iff]

/-- The material or product that owns files is there. -/
def HasOwner (inv : Inventory) : Owner → Prop
  | .material id => id ∈ inv.materials.ids
  | .product id => id ∈ inv.products.ids

theorem HasOwner.mono {inv' : Inventory} {owner : Owner} (owned : inv.HasOwner owner)
    (materials : ∀ id ∈ inv.materials.ids, id ∈ inv'.materials.ids)
    (products : ∀ id ∈ inv.products.ids, id ∈ inv'.products.ids) : inv'.HasOwner owner := by
  cases owner with
  | material id => exact materials id owned
  | product id => exact products id owned

theorem checkOwner_eq_ok {owner : Owner} {done : Unit} :
    inv.checkOwner owner = .ok done ↔ inv.HasOwner owner := by
  cases owner with
  | material id =>
    rw [HasOwner, ← exists_storedMaterial, checkOwner]
    cases inv.storedMaterial id <;> simp [Except.map]
  | product id =>
    rw [HasOwner, ← exists_storedProduct, checkOwner]
    cases inv.storedProduct id <;> simp [Except.map]

theorem checkMaterials_eq_ok {materials : List Material} {done : Unit} :
    inv.checkMaterials materials = .ok done ↔ ∀ m ∈ materials, m.id ∈ inv.materials.ids := by
  unfold checkMaterials
  induction materials with
  | nil => simp [List.forM, pure, Except.pure]
  | cons m ms ih =>
    rw [List.forall_mem_cons, ← exists_storedMaterial, ← ih]
    cases found : inv.storedMaterial m.id <;>
      simp [List.forM, found, Except.map, Bind.bind, Except.bind]

theorem checkUnused_eq_ok {done : Unit} :
    inv.checkUnused id = .ok done ↔ inv.countInUnit id = 0 := by
  unfold checkUnused
  by_cases used : 0 < inv.countInUnit id
  · simp [used, Nat.ne_of_gt used]
  · simp [Nat.eq_zero_of_not_pos used]

theorem checkImage_eq_ok {file : File} {done : Unit} :
    checkImage file = .ok done ↔ file.isImage := by
  unfold checkImage
  by_cases image : file.isImage <;> simp [image]

theorem attachmentsWith_eq_ok {owner : Owner} {files : Attachments} {file : File} :
    inv.attachmentsWith owner id = .ok (files, file) ↔
      inv.attachmentsOf? owner = some files ∧ files.file? id = some file := by
  unfold attachmentsWith
  cases inv.attachmentsOf? owner with
  | none => simp
  | some found =>
    simp only
    cases inside : found.file? id with
    | none =>
      simp only [reduceCtorEq, Option.some.injEq, false_iff]
      rintro ⟨rfl, same⟩
      rw [inside] at same
      cases same
    | some file' =>
      simp only [Except.ok.injEq, Prod.mk.injEq, Option.some.injEq]
      constructor
      · rintro ⟨rfl, rfl⟩
        exact ⟨rfl, inside⟩
      · rintro ⟨rfl, same⟩
        exact ⟨rfl, Option.some.inj (inside.symm.trans same)⟩

/-- A name for a unit is refused where it is blank or another unit has it. -/
theorem checkUnitName_eq_ok {isOther : EntityId → Bool} {raw name : String} :
    inv.checkUnitName isOther raw = .ok name ↔
      Text.isBlankText raw = false ∧ name = Text.trim raw ∧
        ∀ id unit, inv.units.get? id = some unit → isOther unit.id → unit.name ≠ name := by
  have free : (inv.units.values.any fun unit => isOther unit.id && unit.name == Text.trim raw)
      = false ↔
      ∀ id unit, inv.units.get? id = some unit → isOther unit.id → unit.name ≠ Text.trim raw := by
    simp only [List.any_eq_false, Table.mem_values_iff, Bool.and_eq_true, beq_iff_eq, not_and]
    exact ⟨fun other id unit found => other unit ⟨id, found⟩,
      fun other unit ⟨id, found⟩ => other id unit found⟩
  unfold checkUnitName FieldCheck.required
  cases blank : Text.isBlankText raw with
  | true => simp [Bind.bind, Except.bind]
  | false =>
    simp only [Bind.bind, Except.bind, Bool.false_eq_true, if_false, true_and]
    cases taken : inv.units.values.any fun unit => isOther unit.id && unit.name == Text.trim raw with
    | true =>
      rw [if_pos rfl]
      constructor
      · rintro ⟨⟩
      · rintro ⟨rfl, other⟩
        rw [free.2 other] at taken
        cases taken
    | false =>
      rw [if_neg Bool.false_ne_true]
      constructor
      · rintro ⟨⟩
        exact ⟨rfl, free.1 taken⟩
      · rintro ⟨rfl, -⟩
        rfl

/-- The inventory in which a product takes some materials, in the quantities that they show. -/
def putParts (inv : Inventory) (productId : EntityId) (materials : List Material) : Inventory :=
  materials.foldl (fun inv m => inv.putLink (.ofInput productId m.id m.shownQuantity)) inv

end Inventory

/-! ## The relation -/

/-- `Effect inv change outcome inv'`: the change succeeds on `inv`, answers `outcome` and leaves
`inv'`. -/
inductive Effect (inv : Inventory) : Change → Outcome → Inventory → Prop
  | addUnit {raw name : String} (free : inv.checkUnitName (fun _ => true) raw = .ok name) :
    Effect inv (.addUnit raw) (.added inv.nextId)
      (inv.advance.putUnit inv.nextId { id := inv.nextId, name })
  | renameUnit {id : EntityId} {raw name : String} {unit : MeasureUnit}
    (free : inv.checkUnitName (· != id) raw = .ok name)
    (found : inv.units.get? id = some unit) :
    Effect inv (.renameUnit id raw) .done (inv.putUnit id { unit with name })
  | removeUnit {id : EntityId} (present : id ∈ inv.units.ids) (unused : inv.countInUnit id = 0) :
    Effect inv (.removeUnit id) .done (inv.dropUnit id)
  | addMaterial {m : Material} (proper : FieldCheck.names m.names = .ok ())
    (measured : m.unit.id ∈ inv.units.ids) :
    Effect inv (.addMaterial m) (.added inv.nextId)
      ((inv.advance.putMaterial inv.nextId
        { unitId := m.unit.id, description := m.description }).putNames inv.nextId
          (MarkedName.mark m.primaryName m.names))
  | renameMaterial {id : EntityId} {primaryName : String} {names : List String}
    {record : StoredMaterial} {named : Material}
    (found : inv.materials.get? id = some record)
    (proper : (Material.new id { id := record.unitId, name := "" }).setNames primaryName names
      = .ok named) :
    Effect inv (.renameMaterial id primaryName names) .done
      (inv.putNames id (MarkedName.mark named.primaryName named.names))
  | changeUnit {id unitId : EntityId} {record : StoredMaterial}
    (measured : unitId ∈ inv.units.ids) (found : inv.materials.get? id = some record) :
    Effect inv (.changeUnit id unitId) .done (inv.putMaterial id { record with unitId })
  | describeMaterial {id : EntityId} {description : String} {record : StoredMaterial}
    (short : FieldCheck.description description = .ok ())
    (found : inv.materials.get? id = some record) :
    Effect inv (.describeMaterial id description) .done
      (inv.putMaterial id { record with description })
  | removeMaterial {id : EntityId} (present : id ∈ inv.materials.ids) :
    Effect inv (.removeMaterial id) .done (inv.dropMaterial id)
  | addProduct {p : Product}
    (proper : Inventory.checkProductFields p.name p.description = .ok ())
    (present : ∀ m ∈ p.materials, m.id ∈ inv.materials.ids) :
    Effect inv (.addProduct p) (.added inv.nextId)
      ((inv.advance.putProduct inv.nextId
        { name := p.name, description := p.description }).putParts inv.nextId p.materials)
  | reviseProduct {id : EntityId} {name description : String}
    (proper : Inventory.checkProductFields name description = .ok ())
    (present : id ∈ inv.products.ids) :
    Effect inv (.reviseProduct id name description) .done
      (inv.putProduct id { name, description })
  | setPart {productId materialId : EntityId} {raw : String}
    (product : productId ∈ inv.products.ids) (material : materialId ∈ inv.materials.ids) :
    Effect inv (.setPart productId materialId raw) .done
      (inv.putLink (.ofInput productId materialId raw))
  | removePart {productId materialId : EntityId} (product : productId ∈ inv.products.ids) :
    Effect inv (.removePart productId materialId)
      (.takenOut (inv.links.any (·.ends == (productId, materialId))))
      (inv.dropLink (productId, materialId))
  | removeProduct {id : EntityId} (present : id ∈ inv.products.ids) :
    Effect inv (.removeProduct id) .done (inv.dropProduct id)
  | addFile {owner : Owner} {name path mediaType : String} {bytes : Nat}
    (owned : inv.HasOwner owner) (allowed : MediaType.checkUpload mediaType bytes = .ok ()) :
    Effect inv (.addFile owner name path mediaType bytes) (.added inv.nextId)
      (inv.advance.putAttachments owner
        (((inv.attachmentsOf? owner).getD (.empty owner)).attach
          (.new inv.nextId name path mediaType)))
  | choosePicture {owner : Owner} {fileId : EntityId} {files chosen : Attachments} {file : File}
    (owned : inv.HasOwner owner) (found : inv.attachmentsOf? owner = some files)
    (inside : files.file? fileId = some file) (image : file.isImage)
    (chosen_eq : files.choosePicture fileId = .ok chosen) :
    Effect inv (.choosePicture owner fileId) .done (inv.putAttachments owner chosen)
  | removeFile {owner : Owner} {fileId : EntityId} {files : Attachments} {file : File}
    (found : inv.attachmentsOf? owner = some files) (inside : files.file? fileId = some file) :
    Effect inv (.removeFile owner fileId) (.removedFile file)
      (inv.putAttachments owner (files.detach fileId))

/-- The identifiers that a change gave out. -/
def Outcome.given : Outcome → List EntityId
  | .added id => [id]
  | .done | .takenOut _ | .removedFile _ => []

/-! ## Setting the parts of a product -/

namespace Inventory

variable {inv inv' : Inventory}

@[simp] theorem putParts_cons (productId : EntityId) (m : Material) (ms : List Material) :
    inv.putParts productId (m :: ms) =
      (inv.putLink (.ofInput productId m.id m.shownQuantity)).putParts productId ms := rfl

/-- Setting parts changes links only. -/
theorem exists_putParts_eq (productId : EntityId) (ms : List Material) (inv : Inventory) :
    ∃ links, inv.putParts productId ms = { inv with links } := by
  induction ms generalizing inv with
  | nil => exact ⟨inv.links, rfl⟩
  | cons m ms ih => exact ih _

theorem run_setPart {productId materialId : EntityId} {raw : String}
    (product : productId ∈ inv.products.ids) (material : materialId ∈ inv.materials.ids) :
    (setPart productId materialId raw).run inv =
      .ok () (inv.putLink (.ofInput productId materialId raw)) := by
  obtain ⟨_, productThere⟩ := exists_storedProduct.2 product
  obtain ⟨_, materialThere⟩ := exists_storedMaterial.2 material
  simp only [setPart, EStateM.run_bind, run_consult, productThere, materialThere,
    EStateM.run_modify]

/-- Once a product is there and so are its materials, none of them can fail to be set.  Setting one
changes links only, so what was there stays there for the next. -/
theorem run_forM_setPart {productId : EntityId} {ms : List Material}
    (product : productId ∈ inv.products.ids) (materials : ∀ m ∈ ms, m.id ∈ inv.materials.ids) :
    (ms.forM fun m => setPart productId m.id m.shownQuantity).run inv =
      .ok () (inv.putParts productId ms) := by
  induction ms generalizing inv with
  | nil => rfl
  | cons m ms ih =>
    rw [run_forM_cons, EStateM.run_bind, run_setPart product (materials m List.mem_cons_self)]
    exact ih product fun m' member => materials m' (List.mem_cons_of_mem _ member)

/-- Dropping a link leaves fewer links exactly if it was there. -/
theorem length_dropLink_bne (ends : EntityId × EntityId) :
    ((inv.dropLink ends).links.length != inv.links.length) = inv.links.any (·.ends == ends) := by
  rw [Bool.eq_iff_iff, bne_iff_ne, dropLink, Ne, List.length_filter_eq_length_iff]
  simp

end Inventory

/-! ## Changes have their effects -/

theorem effect_of_run {inv inv' : Inventory} {change : Change} {outcome : Outcome}
    (ended : change.perform.run inv = .ok outcome inv') : Effect inv change outcome inv' := by
  cases change with
  | addUnit raw =>
    obtain ⟨id, ran, rfl⟩ := run_map_eq_ok.1 ended
    simp only [Inventory.addUnit, run_bind_eq_ok, run_consult_eq_ok, run_takeId_eq_ok,
      run_modify_eq_ok, run_pure_eq_ok] at ran
    obtain ⟨name, _, ⟨free, rfl⟩, _, _, ⟨rfl, rfl⟩, _, _, rfl, rfl, rfl⟩ := ran
    exact .addUnit free
  | renameUnit id raw =>
    obtain ⟨_, ran, rfl⟩ := run_map_eq_ok.1 ended
    simp only [Inventory.renameUnit, run_bind_eq_ok, run_consult_eq_ok, run_modify_eq_ok,
      Inventory.unit_eq_ok] at ran
    obtain ⟨name, _, ⟨free, rfl⟩, unit, _, ⟨found, rfl⟩, rfl⟩ := ran
    exact .renameUnit free found
  | removeUnit id =>
    obtain ⟨_, ran, rfl⟩ := run_map_eq_ok.1 ended
    simp only [Inventory.removeUnit, run_bind_eq_ok, run_consult_eq_ok, run_modify_eq_ok,
      Inventory.unit_eq_ok, Inventory.checkUnused_eq_ok] at ran
    obtain ⟨unit, _, ⟨found, rfl⟩, _, _, ⟨unused, rfl⟩, rfl⟩ := ran
    exact .removeUnit (Table.mem_ids_of_get? found) unused
  | addMaterial m =>
    obtain ⟨id, ran, rfl⟩ := run_map_eq_ok.1 ended
    simp only [Inventory.addMaterial, run_bind_eq_ok, run_consult_eq_ok, run_takeId_eq_ok,
      run_modify_eq_ok, run_pure_eq_ok, Inventory.unit_eq_ok] at ran
    obtain ⟨_, _, ⟨proper, rfl⟩, unit, _, ⟨found, rfl⟩, _, _, ⟨rfl, rfl⟩, _, _, rfl, _, _, rfl,
      rfl, rfl⟩ := ran
    exact .addMaterial proper (Table.mem_ids_of_get? found)
  | renameMaterial id primaryName names =>
    obtain ⟨_, ran, rfl⟩ := run_map_eq_ok.1 ended
    simp only [Inventory.renameMaterial, run_bind_eq_ok, run_consult_eq_ok, run_modify_eq_ok,
      Inventory.storedMaterial_eq_ok] at ran
    obtain ⟨record, _, ⟨found, rfl⟩, named, _, ⟨proper, rfl⟩, rfl⟩ := ran
    exact .renameMaterial found proper
  | changeUnit id unitId =>
    obtain ⟨_, ran, rfl⟩ := run_map_eq_ok.1 ended
    simp only [Inventory.changeUnit, run_bind_eq_ok, run_consult_eq_ok, run_modify_eq_ok,
      Inventory.unit_eq_ok, Inventory.storedMaterial_eq_ok] at ran
    obtain ⟨unit, _, ⟨measured, rfl⟩, record, _, ⟨found, rfl⟩, rfl⟩ := ran
    exact .changeUnit (Table.mem_ids_of_get? measured) found
  | describeMaterial id description =>
    obtain ⟨_, ran, rfl⟩ := run_map_eq_ok.1 ended
    simp only [Inventory.describeMaterial, run_bind_eq_ok, run_consult_eq_ok, run_modify_eq_ok,
      Inventory.storedMaterial_eq_ok] at ran
    obtain ⟨_, _, ⟨short, rfl⟩, record, _, ⟨found, rfl⟩, rfl⟩ := ran
    exact .describeMaterial short found
  | removeMaterial id =>
    obtain ⟨_, ran, rfl⟩ := run_map_eq_ok.1 ended
    simp only [Inventory.removeMaterial, run_bind_eq_ok, run_consult_eq_ok, run_modify_eq_ok,
      Inventory.storedMaterial_eq_ok] at ran
    obtain ⟨record, _, ⟨found, rfl⟩, rfl⟩ := ran
    exact .removeMaterial (Table.mem_ids_of_get? found)
  | addProduct p =>
    obtain ⟨id, ran, rfl⟩ := run_map_eq_ok.1 ended
    simp only [Inventory.addProduct, run_bind_eq_ok, run_consult_eq_ok, run_takeId_eq_ok,
      run_modify_eq_ok, run_pure_eq_ok, Inventory.checkMaterials_eq_ok] at ran
    obtain ⟨_, _, ⟨proper, rfl⟩, _, _, ⟨present, rfl⟩, _, _, ⟨rfl, rfl⟩, _, _, rfl, _, _, parts,
      rfl, rfl⟩ := ran
    -- the product was stored just before, and the materials were there already
    have stored : inv.nextId ∈ (inv.advance.putProduct inv.nextId
        { name := p.name, description := p.description }).products.ids :=
      Table.mem_ids_insert.2 (.inl rfl)
    rw [Inventory.run_forM_setPart stored present] at parts
    cases parts
    exact .addProduct proper present
  | reviseProduct id name description =>
    obtain ⟨_, ran, rfl⟩ := run_map_eq_ok.1 ended
    simp only [Inventory.reviseProduct, run_bind_eq_ok, run_consult_eq_ok, run_modify_eq_ok,
      Inventory.storedProduct_eq_ok] at ran
    obtain ⟨_, _, ⟨proper, rfl⟩, record, _, ⟨found, rfl⟩, rfl⟩ := ran
    exact .reviseProduct proper (Table.mem_ids_of_get? found)
  | setPart productId materialId raw =>
    obtain ⟨_, ran, rfl⟩ := run_map_eq_ok.1 ended
    simp only [Inventory.setPart, run_bind_eq_ok, run_consult_eq_ok, run_modify_eq_ok,
      Inventory.storedProduct_eq_ok, Inventory.storedMaterial_eq_ok] at ran
    obtain ⟨_, _, ⟨product, rfl⟩, _, _, ⟨material, rfl⟩, rfl⟩ := ran
    exact .setPart (Table.mem_ids_of_get? product) (Table.mem_ids_of_get? material)
  | removePart productId materialId =>
    obtain ⟨wasThere, ran, rfl⟩ := run_map_eq_ok.1 ended
    simp only [Inventory.removePart, run_bind_eq_ok, run_consult_eq_ok, run_modify_eq_ok,
      run_get_eq_ok, run_pure_eq_ok, Inventory.storedProduct_eq_ok] at ran
    obtain ⟨_, _, ⟨product, rfl⟩, _, _, ⟨rfl, rfl⟩, _, _, rfl, _, _, ⟨rfl, rfl⟩, rfl, rfl⟩ := ran
    rw [Inventory.length_dropLink_bne]
    exact .removePart (Table.mem_ids_of_get? product)
  | removeProduct id =>
    obtain ⟨_, ran, rfl⟩ := run_map_eq_ok.1 ended
    simp only [Inventory.removeProduct, run_bind_eq_ok, run_consult_eq_ok, run_modify_eq_ok,
      Inventory.storedProduct_eq_ok] at ran
    obtain ⟨record, _, ⟨found, rfl⟩, rfl⟩ := ran
    exact .removeProduct (Table.mem_ids_of_get? found)
  | addFile owner name path mediaType bytes =>
    obtain ⟨id, ran, rfl⟩ := run_map_eq_ok.1 ended
    simp only [Inventory.addFile, run_bind_eq_ok, run_consult_eq_ok, run_takeId_eq_ok,
      run_modify_eq_ok, run_pure_eq_ok, Inventory.checkOwner_eq_ok] at ran
    obtain ⟨_, _, ⟨owned, rfl⟩, _, _, ⟨allowed, rfl⟩, _, _, ⟨rfl, rfl⟩, _, _, rfl, rfl, rfl⟩ := ran
    exact .addFile owned allowed
  | choosePicture owner fileId =>
    obtain ⟨_, ran, rfl⟩ := run_map_eq_ok.1 ended
    simp only [Inventory.choosePicture, run_bind_eq_ok, run_consult_eq_ok, run_modify_eq_ok,
      Inventory.checkOwner_eq_ok] at ran
    obtain ⟨_, _, ⟨owned, rfl⟩, ⟨files, file⟩, _, ⟨found, rfl⟩, _, _, ⟨image, rfl⟩, chosen, _,
      ⟨chosen_eq, rfl⟩, rfl⟩ := ran
    obtain ⟨found, inside⟩ := Inventory.attachmentsWith_eq_ok.1 found
    exact .choosePicture owned found inside (Inventory.checkImage_eq_ok.1 image) chosen_eq
  | removeFile owner fileId =>
    obtain ⟨file, ran, rfl⟩ := run_map_eq_ok.1 ended
    simp only [Inventory.removeFile, run_bind_eq_ok, run_consult_eq_ok, run_modify_eq_ok,
      run_pure_eq_ok] at ran
    obtain ⟨⟨files, file⟩, _, ⟨found, rfl⟩, _, _, rfl, rfl, rfl⟩ := ran
    obtain ⟨found, inside⟩ := Inventory.attachmentsWith_eq_ok.1 found
    exact .removeFile found inside

/-- Where its conditions hold, a change has its effect. -/
theorem run_of_effect {inv inv' : Inventory} {change : Change} {outcome : Outcome}
    (effect : Effect inv change outcome inv') : change.perform.run inv = .ok outcome inv' := by
  cases effect with
  | addUnit free =>
    refine run_map_eq_ok.2 ⟨_, ?_, rfl⟩
    simp only [Inventory.addUnit, run_bind_eq_ok, run_consult_eq_ok, run_takeId_eq_ok,
      run_modify_eq_ok, run_pure_eq_ok]
    exact ⟨_, _, ⟨free, rfl⟩, _, _, ⟨rfl, rfl⟩, (), _, rfl, rfl, rfl⟩
  | renameUnit free found =>
    refine run_map_eq_ok.2 ⟨(), ?_, rfl⟩
    simp only [Inventory.renameUnit, run_bind_eq_ok, run_consult_eq_ok, run_modify_eq_ok,
      Inventory.unit_eq_ok]
    exact ⟨_, _, ⟨free, rfl⟩, _, _, ⟨found, rfl⟩, rfl⟩
  | removeUnit present unused =>
    obtain ⟨unit, found⟩ := Table.mem_ids_iff.1 present
    refine run_map_eq_ok.2 ⟨(), ?_, rfl⟩
    simp only [Inventory.removeUnit, run_bind_eq_ok, run_consult_eq_ok, run_modify_eq_ok,
      Inventory.unit_eq_ok, Inventory.checkUnused_eq_ok]
    exact ⟨_, _, ⟨found, rfl⟩, (), _, ⟨unused, rfl⟩, rfl⟩
  | addMaterial proper measured =>
    obtain ⟨unit, found⟩ := Table.mem_ids_iff.1 measured
    refine run_map_eq_ok.2 ⟨_, ?_, rfl⟩
    simp only [Inventory.addMaterial, run_bind_eq_ok, run_consult_eq_ok, run_takeId_eq_ok,
      run_modify_eq_ok, run_pure_eq_ok, Inventory.unit_eq_ok]
    exact ⟨_, _, ⟨proper, rfl⟩, _, _, ⟨found, rfl⟩, _, _, ⟨rfl, rfl⟩, (), _, rfl, (), _, rfl,
      rfl, rfl⟩
  | renameMaterial found proper =>
    refine run_map_eq_ok.2 ⟨(), ?_, rfl⟩
    simp only [Inventory.renameMaterial, run_bind_eq_ok, run_consult_eq_ok, run_modify_eq_ok,
      Inventory.storedMaterial_eq_ok]
    exact ⟨_, _, ⟨found, rfl⟩, _, _, ⟨proper, rfl⟩, rfl⟩
  | changeUnit measured found =>
    obtain ⟨unit, foundUnit⟩ := Table.mem_ids_iff.1 measured
    refine run_map_eq_ok.2 ⟨(), ?_, rfl⟩
    simp only [Inventory.changeUnit, run_bind_eq_ok, run_consult_eq_ok, run_modify_eq_ok,
      Inventory.unit_eq_ok, Inventory.storedMaterial_eq_ok]
    exact ⟨_, _, ⟨foundUnit, rfl⟩, _, _, ⟨found, rfl⟩, rfl⟩
  | describeMaterial short found =>
    refine run_map_eq_ok.2 ⟨(), ?_, rfl⟩
    simp only [Inventory.describeMaterial, run_bind_eq_ok, run_consult_eq_ok, run_modify_eq_ok,
      Inventory.storedMaterial_eq_ok]
    exact ⟨_, _, ⟨short, rfl⟩, _, _, ⟨found, rfl⟩, rfl⟩
  | removeMaterial present =>
    obtain ⟨record, found⟩ := Table.mem_ids_iff.1 present
    refine run_map_eq_ok.2 ⟨(), ?_, rfl⟩
    simp only [Inventory.removeMaterial, run_bind_eq_ok, run_consult_eq_ok, run_modify_eq_ok,
      Inventory.storedMaterial_eq_ok]
    exact ⟨_, _, ⟨found, rfl⟩, rfl⟩
  | addProduct proper present =>
    refine run_map_eq_ok.2 ⟨_, ?_, rfl⟩
    simp only [Inventory.addProduct, run_bind_eq_ok, run_consult_eq_ok, run_takeId_eq_ok,
      run_modify_eq_ok, run_pure_eq_ok, Inventory.checkMaterials_eq_ok]
    exact ⟨_, _, ⟨proper, rfl⟩, (), _, ⟨present, rfl⟩, _, _, ⟨rfl, rfl⟩, (), _, rfl, (), _,
      Inventory.run_forM_setPart (Table.mem_ids_insert.2 (.inl rfl)) present, rfl, rfl⟩
  | reviseProduct proper present =>
    obtain ⟨record, found⟩ := Table.mem_ids_iff.1 present
    refine run_map_eq_ok.2 ⟨(), ?_, rfl⟩
    simp only [Inventory.reviseProduct, run_bind_eq_ok, run_consult_eq_ok, run_modify_eq_ok,
      Inventory.storedProduct_eq_ok]
    exact ⟨_, _, ⟨proper, rfl⟩, _, _, ⟨found, rfl⟩, rfl⟩
  | setPart product material =>
    exact run_map_eq_ok.2 ⟨(), Inventory.run_setPart product material, rfl⟩
  | removePart product =>
    obtain ⟨record, found⟩ := Table.mem_ids_iff.1 product
    refine run_map_eq_ok.2 ⟨_, ?_, rfl⟩
    simp only [Inventory.removePart, run_bind_eq_ok, run_consult_eq_ok, run_modify_eq_ok,
      run_get_eq_ok, run_pure_eq_ok, Inventory.storedProduct_eq_ok]
    exact ⟨_, _, ⟨found, rfl⟩, _, _, ⟨rfl, rfl⟩, (), _, rfl, _, _, ⟨rfl, rfl⟩,
      Inventory.length_dropLink_bne _, rfl⟩
  | removeProduct present =>
    obtain ⟨record, found⟩ := Table.mem_ids_iff.1 present
    refine run_map_eq_ok.2 ⟨(), ?_, rfl⟩
    simp only [Inventory.removeProduct, run_bind_eq_ok, run_consult_eq_ok, run_modify_eq_ok,
      Inventory.storedProduct_eq_ok]
    exact ⟨_, _, ⟨found, rfl⟩, rfl⟩
  | addFile owned allowed =>
    refine run_map_eq_ok.2 ⟨_, ?_, rfl⟩
    simp only [Inventory.addFile, run_bind_eq_ok, run_consult_eq_ok, run_takeId_eq_ok,
      run_modify_eq_ok, run_pure_eq_ok, Inventory.checkOwner_eq_ok]
    exact ⟨(), _, ⟨owned, rfl⟩, _, _, ⟨allowed, rfl⟩, _, _, ⟨rfl, rfl⟩, (), _, rfl, rfl, rfl⟩
  | choosePicture owned found inside image chosen_eq =>
    refine run_map_eq_ok.2 ⟨(), ?_, rfl⟩
    simp only [Inventory.choosePicture, run_bind_eq_ok, run_consult_eq_ok, run_modify_eq_ok,
      Inventory.checkOwner_eq_ok]
    exact ⟨(), _, ⟨owned, rfl⟩, (_, _), _,
      ⟨Inventory.attachmentsWith_eq_ok.2 ⟨found, inside⟩, rfl⟩, (), _,
      ⟨Inventory.checkImage_eq_ok.2 image, rfl⟩, _, _, ⟨chosen_eq, rfl⟩, rfl⟩
  | removeFile found inside =>
    refine run_map_eq_ok.2 ⟨_, ?_, rfl⟩
    simp only [Inventory.removeFile, run_bind_eq_ok, run_consult_eq_ok, run_modify_eq_ok,
      run_pure_eq_ok]
    exact ⟨(_, _), _, ⟨Inventory.attachmentsWith_eq_ok.2 ⟨found, inside⟩, rfl⟩, (), _, rfl, rfl,
      rfl⟩

end PartsCatalog
