import Mathlib.Data.List.Flatten
import PartsCatalog.Proofs.Inventory.Atomicity
import PartsCatalog.Proofs.Inventory.Valid
import PartsCatalog.Proofs.Material

/-!
# Updates keep the inventory valid

Each update of the inventory keeps it valid under conditions of its own (`Valid.putUnit` and the
lemmas beside it).  An update that may bring a new identifier into use takes as one of its
conditions that the identifiers stay proper; the lemmas of `IdsProper` say when they do.
-/

namespace PartsCatalog

/-- A form gives the quantity that its text denotes, and the text without the blanks around it. -/
theorem Link.entered_ofInput (productId materialId : EntityId) (raw : String) :
    (ofInput productId materialId raw).quantity =
        Quantity.ofInput? (ofInput productId materialId raw).input ∧
      Text.Trimmed (ofInput productId materialId raw).input := by
  dsimp only [ofInput]
  exact ⟨by rw [Quantity.ofInput?_trim], Text.trimmed_trim raw⟩

namespace Inventory

variable {inv inv' : Inventory} {id : EntityId}

/-! ## Identifiers in use -/

/-- Files are listed in the place of their owner, whether or not it had any. -/
theorem fileIds_putAttachments (inv : Inventory) (owner : Owner) :
    ∃ before after,
      inv.fileIds = before ++ ((inv.attachmentsOf? owner).getD (.empty owner)).ids ++ after ∧
      ∀ files, (inv.putAttachments owner files).fileIds = before ++ files.ids ++ after := by
  cases found : inv.attachments.find? (·.1 == owner) with
  | none =>
    refine ⟨inv.fileIds, [], ?_, fun files => ?_⟩
    · simp [attachmentsOf?, found]
    · rw [fileIds, putAttachments, updateOrAppend_of_not_mem (find?_key_eq_none_iff.1 found),
        List.flatMap_append]
      simp [fileIds]
  | some entry =>
    obtain ⟨before, after, split, absent, atOwner⟩ := exists_split_of_find? found
    refine ⟨before.flatMap (·.2.ids), after.flatMap (·.2.ids), ?_, fun files => ?_⟩
    · rw [fileIds, split, attachmentsOf?, found]
      simp
    · rw [fileIds, putAttachments, split, updateOrAppend_append_of_not_mem absent,
        updateOrAppend_cons_of_eq atOwner]
      simp

/-- What is set in its place stays in use. -/
theorem idsInUse_putUnit {unit : MeasureUnit} (present : id ∈ inv.units.ids) :
    (inv.putUnit id unit).idsInUse = inv.idsInUse := by
  simp [idsInUse, putUnit, Table.ids_insert_of_mem present, fileIds]

theorem idsInUse_putMaterial {record : StoredMaterial} (present : id ∈ inv.materials.ids) :
    (inv.putMaterial id record).idsInUse = inv.idsInUse := by
  simp [idsInUse, putMaterial, Table.ids_insert_of_mem present, fileIds]

theorem idsInUse_putProduct {record : StoredProduct} (present : id ∈ inv.products.ids) :
    (inv.putProduct id record).idsInUse = inv.idsInUse := by
  simp [idsInUse, putProduct, Table.ids_insert_of_mem present, fileIds]

namespace IdsProper

/-! ### One more

Each of the updates that add something brings the next identifier into use, and no other. -/

theorem perm_putUnit (proper : inv.IdsProper) (unit : MeasureUnit) :
    (inv.advance.putUnit inv.nextId unit).idsInUse.Perm (inv.nextId :: inv.idsInUse) := by
  have absent : inv.nextId ∉ inv.units.ids := fun member =>
    proper.nextId_not_mem (by simp [idsInUse, member])
  exact (((Table.ids_insert_perm absent).append_right _).append_right _).append_right _

theorem perm_putMaterial (proper : inv.IdsProper) (record : StoredMaterial)
    (names : List MarkedName) :
    ((inv.advance.putMaterial inv.nextId record).putNames inv.nextId names).idsInUse.Perm
      (inv.nextId :: inv.idsInUse) := by
  have absent : inv.nextId ∉ inv.materials.ids := fun member =>
    proper.nextId_not_mem (by simp [idsInUse, member])
  have added : (inv.materials.insert inv.nextId record).ids.Perm
      (inv.nextId :: inv.materials.ids) := Table.ids_insert_perm absent
  exact (((added.append_left _).trans List.perm_middle).append_right _).append_right _

theorem perm_putProduct (proper : inv.IdsProper) (record : StoredProduct) :
    (inv.advance.putProduct inv.nextId record).idsInUse.Perm (inv.nextId :: inv.idsInUse) := by
  have absent : inv.nextId ∉ inv.products.ids := fun member =>
    proper.nextId_not_mem (by simp [idsInUse, member])
  have added : (inv.products.insert inv.nextId record).ids.Perm
      (inv.nextId :: inv.products.ids) := Table.ids_insert_perm absent
  exact ((added.append_left _).trans List.perm_middle).append_right _

theorem not_mem_files_nextId (proper : inv.IdsProper) (owner : Owner) :
    inv.nextId ∉ ((inv.attachmentsOf? owner).getD (.empty owner)).ids := by
  intro member
  obtain ⟨before, after, listed, -⟩ := fileIds_putAttachments inv owner
  apply proper.nextId_not_mem
  simp [idsInUse, listed, member]

theorem perm_attach (proper : inv.IdsProper) {owner : Owner} {file : File}
    (atNext : file.id = inv.nextId) :
    (inv.advance.putAttachments owner
      (((inv.attachmentsOf? owner).getD (.empty owner)).attach file)).idsInUse.Perm
      (inv.nextId :: inv.idsInUse) := by
  obtain ⟨before, after, listed, set⟩ := fileIds_putAttachments inv owner
  have absent : file.id ∉ ((inv.attachmentsOf? owner).getD (.empty owner)).ids :=
    atNext ▸ proper.not_mem_files_nextId owner
  have added : (inv.putAttachments owner
      (((inv.attachmentsOf? owner).getD (.empty owner)).attach file)).fileIds.Perm
      (inv.nextId :: inv.fileIds) := by
    rw [set, listed, Attachments.ids_attach absent, atNext]
    simp only [List.append_assoc, List.singleton_append]
    exact (List.perm_middle.append_left before).trans List.perm_middle
  exact (added.append_left _).trans List.perm_middle

theorem putUnit_nextId (proper : inv.IdsProper) (unit : MeasureUnit) :
    (inv.advance.putUnit inv.nextId unit).IdsProper :=
  proper.of_perm_cons (proper.perm_putUnit unit) rfl

theorem putMaterial_nextId (proper : inv.IdsProper) (record : StoredMaterial)
    (names : List MarkedName) :
    ((inv.advance.putMaterial inv.nextId record).putNames inv.nextId names).IdsProper :=
  proper.of_perm_cons (proper.perm_putMaterial record names) rfl

theorem putProduct_nextId (proper : inv.IdsProper) (record : StoredProduct) :
    (inv.advance.putProduct inv.nextId record).IdsProper :=
  proper.of_perm_cons (proper.perm_putProduct record) rfl

/-- Attaching a file under the next identifier brings that one into use. -/
theorem attach_nextId (proper : inv.IdsProper) {owner : Owner} {file : File}
    (atNext : file.id = inv.nextId) :
    (inv.advance.putAttachments owner
      (((inv.attachmentsOf? owner).getD (.empty owner)).attach file)).IdsProper :=
  proper.of_perm_cons (proper.perm_attach atNext) rfl

/-! ### As many or fewer -/

/-- Identifiers stay proper where the same are in use. -/
theorem of_eq (proper : inv.IdsProper) (same : inv'.idsInUse = inv.idsInUse)
    (sameLast : inv'.lastId = inv.lastId) : inv'.IdsProper :=
  proper.of_sublist (same ▸ .refl _) sameLast

/-- Files that go or stay bring nothing into use. -/
theorem putAttachments (proper : inv.IdsProper) {owner : Owner} {files kept : Attachments}
    (found : inv.attachmentsOf? owner = some files) (fewer : kept.ids.Sublist files.ids) :
    (inv.putAttachments owner kept).IdsProper := by
  obtain ⟨before, after, listed, set⟩ := fileIds_putAttachments inv owner
  rw [found, Option.getD_some] at listed
  refine proper.of_sublist ?_ rfl
  have included : (inv.putAttachments owner kept).fileIds.Sublist inv.fileIds := by
    rw [set, listed]
    exact (fewer.append_left before).append_right after
  exact included.append_left _

theorem putUnit (proper : inv.IdsProper) {unit : MeasureUnit} (present : id ∈ inv.units.ids) :
    (inv.putUnit id unit).IdsProper := proper.of_eq (idsInUse_putUnit present) rfl

theorem putMaterial (proper : inv.IdsProper) {record : StoredMaterial}
    (present : id ∈ inv.materials.ids) : (inv.putMaterial id record).IdsProper :=
  proper.of_eq (idsInUse_putMaterial present) rfl

theorem putProduct (proper : inv.IdsProper) {record : StoredProduct}
    (present : id ∈ inv.products.ids) : (inv.putProduct id record).IdsProper :=
  proper.of_eq (idsInUse_putProduct present) rfl

theorem dropUnit (proper : inv.IdsProper) (id : EntityId) : (inv.dropUnit id).IdsProper := by
  refine proper.of_sublist ?_ rfl
  have fewer : (inv.dropUnit id).units.ids.Sublist inv.units.ids :=
    Table.ids_erase ▸ List.filter_sublist
  exact ((fewer.append_right _).append_right _).append_right _

/-- What goes with an owner are its own identifier and those of its files. -/
theorem fileIds_sublist (keep : Owner × Attachments → Bool)
    (sameFiles : inv'.attachments = inv.attachments.filter keep) :
    inv'.fileIds.Sublist inv.fileIds := by
  rw [fileIds, sameFiles]
  exact List.filter_sublist.flatMap _

theorem dropMaterial (proper : inv.IdsProper) (id : EntityId) :
    (inv.dropMaterial id).IdsProper := by
  refine proper.of_sublist ?_ rfl
  have fewer : (inv.dropMaterial id).materials.ids.Sublist inv.materials.ids :=
    Table.ids_erase ▸ List.filter_sublist
  exact ((fewer.append_left _).append_right _).append (fileIds_sublist _ rfl)

theorem dropProduct (proper : inv.IdsProper) (id : EntityId) :
    (inv.dropProduct id).IdsProper := by
  refine proper.of_sublist ?_ rfl
  have fewer : (inv.dropProduct id).products.ids.Sublist inv.products.ids :=
    Table.ids_erase ▸ List.filter_sublist
  exact (fewer.append_left _).append (fileIds_sublist _ rfl)

end IdsProper

/-! ## Owners of files -/

/-- Files stay with their owners where no owner goes. -/
theorem Valid.owned_of_subset (valid : inv.Valid)
    (materials : ∀ id ∈ inv.materials.ids, id ∈ inv'.materials.ids)
    (products : ∀ id ∈ inv.products.ids, id ∈ inv'.products.ids) :
    ∀ entry ∈ inv.attachments, inv'.HasOwner entry.1 ∧ entry.2.owner = entry.1 :=
  fun entry member => ((valid.owned entry member).imp_left (·.mono materials products))

theorem HasOwner.dropMaterial {owner : Owner} (owned : inv.HasOwner owner)
    (other : owner ≠ .material id) : (inv.dropMaterial id).HasOwner owner := by
  cases owner with
  | material id' => exact Table.mem_ids_erase.2 ⟨owned, fun same => other (congrArg _ same)⟩
  | product id' => exact owned

theorem HasOwner.dropProduct {owner : Owner} (owned : inv.HasOwner owner)
    (other : owner ≠ .product id) : (inv.dropProduct id).HasOwner owner := by
  cases owner with
  | material id' => exact owned
  | product id' => exact Table.mem_ids_erase.2 ⟨owned, fun same => other (congrArg _ same)⟩

/-! ## Updates -/

namespace Valid

theorem advance (valid : inv.Valid) : inv.advance.Valid :=
  { valid with
    ids :=
      { distinct := valid.ids.distinct
        given := fun id member =>
          ⟨(valid.ids.given id member).1, Int.le_of_lt (valid.ids.lt_nextId member)⟩
        started := Int.le_of_lt valid.ids.nextId_pos } }

/-- A unit is set under its own identifier and a name of its own. -/
theorem putUnit (valid : inv.Valid) {unit : MeasureUnit} (atId : unit.id = id)
    (proper : Text.isBlankText unit.name = false ∧ Text.Trimmed unit.name)
    (free : ∀ id' unit', inv.units.get? id' = some unit' → unit'.name = unit.name → id' = id)
    (ids : (inv.putUnit id unit).IdsProper) : (inv.putUnit id unit).Valid :=
  { valid with
    measured := fun id' record found =>
      Table.mem_ids_insert.2 (.inr (valid.measured id' record found))
    unitKey := Table.forall_get?_insert atId valid.unitKey
    unitName := Table.forall_get?_insert proper valid.unitName
    unitNamesDiffer := by
      intro id₁ id₂ unit₁ unit₂ found₁ found₂ same
      rcases Table.get?_insert_eq_some_iff.1 found₁ with ⟨rfl, rfl⟩ | ⟨before₁, -⟩
      · rcases Table.get?_insert_eq_some_iff.1 found₂ with ⟨rfl, -⟩ | ⟨before₂, -⟩
        · rfl
        · exact (free id₂ unit₂ before₂ same.symm).symm
      · rcases Table.get?_insert_eq_some_iff.1 found₂ with ⟨rfl, rfl⟩ | ⟨before₂, -⟩
        · exact free id₁ unit₁ before₁ same
        · exact valid.unitNamesDiffer id₁ id₂ unit₁ unit₂ before₁ before₂ same
    ids }

/-- A unit goes when no material is measured in it. -/
theorem dropUnit (valid : inv.Valid) (unused : inv.countInUnit id = 0) : (inv.dropUnit id).Valid :=
  { valid with
    measured := by
      intro id' record found
      refine Table.mem_ids_erase.2 ⟨valid.measured id' record found, fun same => ?_⟩
      have other := List.countP_eq_zero.1 unused record (Table.mem_values_iff.2 ⟨id', found⟩)
      exact other (by simp [same])
    unitKey := Table.forall_get?_erase valid.unitKey
    unitName := Table.forall_get?_erase valid.unitName
    unitNamesDiffer := fun id₁ id₂ unit₁ unit₂ found₁ found₂ =>
      valid.unitNamesDiffer id₁ id₂ unit₁ unit₂ (Table.get?_erase_eq_some_iff.1 found₁).1
        (Table.get?_erase_eq_some_iff.1 found₂).1
    ids := valid.ids.dropUnit id }

/-- A material that is there may be kept otherwise. -/
theorem putMaterial (valid : inv.Valid) {record : StoredMaterial} (present : id ∈ inv.materials.ids)
    (measured : record.unitId ∈ inv.units.ids) : (inv.putMaterial id record).Valid :=
  have sameIds : (inv.putMaterial id record).materials.ids = inv.materials.ids :=
    Table.ids_insert_of_mem present
  { valid with
    measured := Table.forall_get?_insert measured valid.measured
    linked := fun link member => (valid.linked link member).imp_right fun there => sameIds ▸ there
    named := valid.named.trans sameIds.symm
    owned := valid.owned_of_subset (fun _ there => sameIds ▸ there) fun _ there => there
    ids := valid.ids.putMaterial present }

/-- A material that is there may get other names. -/
theorem putNames (valid : inv.Valid) {names : List MarkedName} (present : id ∈ inv.materials.ids)
    (nonempty : names ≠ [])
    (oneMarked : ∀ a ∈ names, ∀ b ∈ names, a.isPrimary → b.isPrimary → a.name = b.name) :
    (inv.putNames id names).Valid :=
  { valid with
    named := (Table.ids_insert_of_mem (valid.named ▸ present)).trans valid.named
    nonempty := Table.forall_get?_insert nonempty valid.nonempty
    oneMarked := Table.forall_get?_insert oneMarked valid.oneMarked
    ids := valid.ids.of_eq rfl rfl }

/-- A material comes with its names. -/
theorem putNamedMaterial (valid : inv.Valid) {record : StoredMaterial} {names : List MarkedName}
    (measured : record.unitId ∈ inv.units.ids) (nonempty : names ≠ [])
    (oneMarked : ∀ a ∈ names, ∀ b ∈ names, a.isPrimary → b.isPrimary → a.name = b.name)
    (ids : ((inv.putMaterial id record).putNames id names).IdsProper) :
    ((inv.putMaterial id record).putNames id names).Valid :=
  { valid with
    measured := Table.forall_get?_insert measured valid.measured
    linked := fun link member =>
      (valid.linked link member).imp_right fun there => Table.mem_ids_insert.2 (.inr there)
    named := by
      apply Table.eq_of_ascending (Table.ids_ascending _) (Table.ids_ascending _)
      intro id'
      rw [Inventory.putNames, Inventory.putMaterial, Table.mem_ids_insert, Table.mem_ids_insert,
        valid.named]
    nonempty := Table.forall_get?_insert nonempty valid.nonempty
    oneMarked := Table.forall_get?_insert oneMarked valid.oneMarked
    owned := valid.owned_of_subset (fun _ there => Table.mem_ids_insert.2 (.inr there))
      fun _ there => there
    ids }

/-- With a material go the links to it and its files, so nothing refers to it any more. -/
theorem dropMaterial (valid : inv.Valid) (id : EntityId) : (inv.dropMaterial id).Valid :=
  { valid with
    measured := Table.forall_get?_erase valid.measured
    linked := by
      intro link member
      obtain ⟨member, other⟩ := List.mem_filter.1 member
      obtain ⟨product, material⟩ := valid.linked link member
      exact ⟨product, Table.mem_ids_erase.2 ⟨material, bne_iff_ne.1 other⟩⟩
    linkedOnce := valid.linkedOnce.sublist (List.filter_sublist.map _)
    named := by
      rw [Inventory.dropMaterial, Table.ids_erase, Table.ids_erase, valid.named]
    nonempty := Table.forall_get?_erase valid.nonempty
    oneMarked := Table.forall_get?_erase valid.oneMarked
    owned := by
      intro entry member
      obtain ⟨member, other⟩ := List.mem_filter.1 member
      exact (valid.owned entry member).imp_left (·.dropMaterial (bne_iff_ne.1 other))
    ownedOnce := valid.ownedOnce.sublist (List.filter_sublist.map _)
    entered := fun link member => valid.entered link (List.mem_filter.1 member).1
    ids := valid.ids.dropMaterial id }

theorem putProduct (valid : inv.Valid) {record : StoredProduct}
    (ids : (inv.putProduct id record).IdsProper) : (inv.putProduct id record).Valid :=
  { valid with
    linked := fun link member =>
      (valid.linked link member).imp_left fun there => Table.mem_ids_insert.2 (.inr there)
    owned := valid.owned_of_subset (fun _ there => there)
      fun _ there => Table.mem_ids_insert.2 (.inr there)
    ids }

/-- With a product go its links and its files, so nothing refers to it any more. -/
theorem dropProduct (valid : inv.Valid) (id : EntityId) : (inv.dropProduct id).Valid :=
  { valid with
    linked := by
      intro link member
      obtain ⟨member, other⟩ := List.mem_filter.1 member
      obtain ⟨product, material⟩ := valid.linked link member
      exact ⟨Table.mem_ids_erase.2 ⟨product, bne_iff_ne.1 other⟩, material⟩
    linkedOnce := valid.linkedOnce.sublist (List.filter_sublist.map _)
    owned := by
      intro entry member
      obtain ⟨member, other⟩ := List.mem_filter.1 member
      exact (valid.owned entry member).imp_left (·.dropProduct (bne_iff_ne.1 other))
    ownedOnce := valid.ownedOnce.sublist (List.filter_sublist.map _)
    entered := fun link member => valid.entered link (List.mem_filter.1 member).1
    ids := valid.ids.dropProduct id }

/-- A link is set between ends that are there, in the place of the one that connected them. -/
theorem putLink (valid : inv.Valid) {link : Link} (product : link.productId ∈ inv.products.ids)
    (material : link.materialId ∈ inv.materials.ids)
    (entered : link.quantity = Quantity.ofInput? link.input ∧ Text.Trimmed link.input) :
    (inv.putLink link).Valid :=
  have isOld : ∀ {link'}, link' ∈ (inv.putLink link).links → link' = link ∨ link' ∈ inv.links := by
    intro link' member
    rcases mem_updateOrAppend member with old | rfl | ⟨-, -, -, rfl⟩
    · exact .inr old
    · exact .inl rfl
    · exact .inl rfl
  { valid with
    linked := by
      intro link' member
      rcases isOld member with rfl | old
      · exact ⟨product, material⟩
      · exact valid.linked link' old
    linkedOnce := nodup_map_key_updateOrAppend valid.linkedOnce rfl fun _ _ => rfl
    entered := by
      intro link' member
      rcases isOld member with rfl | old
      · exact entered
      · exact valid.entered link' old
    ids := valid.ids.of_eq rfl rfl }

/-- What a form gives makes a proper link. -/
theorem putLink_ofInput (valid : inv.Valid) {productId materialId : EntityId}
    (product : productId ∈ inv.products.ids) (material : materialId ∈ inv.materials.ids)
    (raw : String) : (inv.putLink (.ofInput productId materialId raw)).Valid :=
  valid.putLink product material (Link.entered_ofInput productId materialId raw)

/-- A product takes its materials one by one; each finds a valid inventory. -/
theorem putParts {productId : EntityId} {ms : List Material} :
    ∀ {inv : Inventory}, inv.Valid → productId ∈ inv.products.ids →
      (∀ m ∈ ms, m.id ∈ inv.materials.ids) → (inv.putParts productId ms).Valid := by
  induction ms with
  | nil => exact fun valid _ _ => valid
  | cons m ms ih =>
    intro inv valid product materials
    exact ih (valid.putLink_ofInput product (materials m List.mem_cons_self) m.shownQuantity)
      product fun m' member => materials m' (List.mem_cons_of_mem m member)

theorem dropLink (valid : inv.Valid) (ends : EntityId × EntityId) : (inv.dropLink ends).Valid :=
  { valid with
    linked := fun link member => valid.linked link (List.mem_filter.1 member).1
    linkedOnce := valid.linkedOnce.sublist (List.filter_sublist.map _)
    entered := fun link member => valid.entered link (List.mem_filter.1 member).1
    ids := valid.ids.of_eq rfl rfl }

/-- The files of an owner that is there may be set. -/
theorem putAttachments (valid : inv.Valid) {owner : Owner} {files : Attachments}
    (owned : inv.HasOwner owner) (sameOwner : files.owner = owner)
    (ids : (inv.putAttachments owner files).IdsProper) :
    (inv.putAttachments owner files).Valid :=
  { valid with
    owned := by
      intro entry member
      rcases mem_updateOrAppend member with old | rfl | ⟨-, -, -, rfl⟩
      · exact valid.owned entry old
      · exact ⟨owned, sameOwner⟩
      · exact ⟨owned, sameOwner⟩
    ownedOnce := nodup_map_key_updateOrAppend valid.ownedOnce rfl fun _ _ => rfl
    ids }

/-- What is kept of an owner of files belongs to it. -/
theorem of_attachmentsOf? (valid : inv.Valid) {owner : Owner} {files : Attachments}
    (found : inv.attachmentsOf? owner = some files) :
    inv.HasOwner owner ∧ files.owner = owner := by
  obtain ⟨entry, atOwner, rfl⟩ := Option.map_eq_some_iff.1 found
  obtain ⟨member, rfl⟩ := (find?_key_eq_some_iff valid.ownedOnce).1 atOwner
  exact valid.owned entry member

end Valid

end Inventory

end PartsCatalog
