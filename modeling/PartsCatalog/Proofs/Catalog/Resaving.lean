import PartsCatalog.Proofs.Catalog.Names
import PartsCatalog.Proofs.Inventory.Texts

/-!
# Saving what is shown

A form that is saved as it was shown changes nothing that can be read, whatever changes came before
(`resaving_changes_nothing`).  The unit of a material, the name of a unit, the fields of a product
and the quantities of its materials are kept as they are; only the rows of a material's names may
become others, with the same names collected from them (`readsSame_putNames`).
-/

namespace PartsCatalog.Inventory

variable {inv inv' : Inventory} {id : EntityId}

/-- Everything that can be read is as it was. -/
structure ReadsSame (inv inv' : Inventory) : Prop where
  listMaterials : inv'.listMaterials = inv.listMaterials
  listProducts : inv'.listProducts = inv.listProducts
  material : ∀ id, inv'.material id = inv.material id
  product : ∀ id, inv'.product id = inv.product id
  unit : ∀ id, inv'.unit id = inv.unit id
  listUnits : inv'.listUnits = inv.listUnits
  files : ∀ owner, inv'.files owner = inv.files owner

theorem ReadsSame.refl (inv : Inventory) : inv.ReadsSame inv :=
  ⟨rfl, rfl, fun _ => rfl, fun _ => rfl, fun _ => rfl, rfl, fun _ => rfl⟩

/-- A change succeeds, and everything can be read as before. -/
def Resaves (inv : Inventory) (change : Change) : Prop :=
  ∃ inv', inv.step change = (inv', .ok .done) ∧ inv.ReadsSame inv'

theorem Resaves.of_same {change : Change} (effect : Effect inv change .done inv')
    (same : inv' = inv) : inv.Resaves change :=
  ⟨inv', step_eq_ok_iff.2 effect, same ▸ ReadsSame.refl inv⟩

/-! ## Setting what is kept -/

theorem putUnit_of_get? {unit : MeasureUnit} (found : inv.units.get? id = some unit) :
    inv.putUnit id unit = inv := by
  rw [putUnit, Table.insert_of_get? found]

theorem putMaterial_of_get? {record : StoredMaterial} (found : inv.materials.get? id = some record) :
    inv.putMaterial id record = inv := by
  rw [putMaterial, Table.insert_of_get? found]

theorem putProduct_of_get? {record : StoredProduct} (found : inv.products.get? id = some record) :
    inv.putProduct id record = inv := by
  rw [putProduct, Table.insert_of_get? found]

/-! ## Names -/

section Names

variable {rows : List MarkedName}

/-- Rows from which the same names are collected, and which show the same one, are read alike. -/
theorem readsSame_putNames (valid : inv.Valid) (valid' : (inv.putNames id rows).Valid)
    (collected : MarkedName.collect rows = MarkedName.collect (inv.storedNames id))
    (shown : MarkedName.shown rows = inv.shownName id) :
    inv.ReadsSame (inv.putNames id rows) := by
  have names (other : EntityId) : MarkedName.collect ((inv.putNames id rows).storedNames other) =
      MarkedName.collect (inv.storedNames other) := by
    rw [storedNames_putNames]
    split
    · next same => rw [same, collected]
    · rfl
  have name (other : EntityId) : (inv.putNames id rows).shownName other = inv.shownName other := by
    rw [shownName, storedNames_putNames]
    split
    · next same => rw [same, shown]
    · rfl
  have materialView : (inv.putNames id rows).materialView = inv.materialView := by
    funext other record
    rw [Inventory.materialView, names]
    rfl
  have part : (inv.putNames id rows).partOf = inv.partOf := by
    funext link
    rw [partOf, name]
    rfl
  have productView : (inv.putNames id rows).productView = inv.productView := by
    funext other record
    rw [Inventory.productView, part]
    rfl
  refine ⟨?_, valid.listProducts_same valid' rfl productView,
    fun other => valid.material_same valid' rfl (congrFun materialView other),
    fun other => valid.product_same valid' rfl (congrFun productView other), fun _ => rfl, rfl,
    fun owner => ?_⟩
  · rw [valid'.listMaterials_eq_ok, valid.listMaterials_eq_ok]
    simp only [materialListed, materialView]
    rfl
  · cases owner <;> rfl

end Names

namespace Valid

/-- The names that a material shows pass the check for names. -/
theorem names_materialView (valid : inv.Valid) (checked : inv.NamesChecked)
    {record : StoredMaterial} (found : inv.materials.get? id = some record) :
    FieldCheck.names (inv.materialView id record).names = .ok () := by
  obtain ⟨rows, kept⟩ := Table.mem_ids_iff.1 (valid.named ▸ Table.mem_ids_of_get? found)
  obtain ⟨-, lengths⟩ := FieldCheck.names_eq_ok.1 (checked id rows kept)
  have collected {name : String} :
      name ∈ (inv.materialView id record).names ↔ name ∈ rows.map (·.name) := by
    rw [materialView, storedNames, kept, Option.getD_some, MarkedName.fst_collect,
      mem_firstOccurrences, mem_filter_nonempty, and_iff_left_of_imp]
    exact FieldCheck.ne_empty_of_names (checked id rows kept)
  obtain ⟨row, rest, rfl⟩ := List.exists_cons_of_ne_nil (valid.nonempty id rows kept)
  exact FieldCheck.names_eq_ok.2
    ⟨List.ne_nil_of_mem (collected.2 (List.mem_map_of_mem List.mem_cons_self)),
      fun name member => lengths name (collected.1 member)⟩

/-- The names that a material shows can be saved. -/
theorem resaves_names (valid : inv.Valid) (checked : inv.NamesChecked) {record : StoredMaterial}
    (found : inv.materials.get? id = some record) :
    inv.Resaves (.renameMaterial id (inv.materialView id record).primaryName
      (inv.materialView id record).names) := by
  have proper : ProperNames (inv.materialView id record).names
      (inv.materialView id record).primaryName := MarkedName.properNames_collect _
  have kept := collectNames_of_proper proper
  have passed := valid.names_materialView checked found
  have effect := Effect.renameMaterial found (Material.setNames_of_passed (by rwa [kept]))
  dsimp only at effect
  rw [kept] at effect
  obtain ⟨rows, marked⟩ : ∃ rows, MarkedName.mark (inv.materialView id record).primaryName
      (inv.materialView id record).names = rows := ⟨_, rfl⟩
  have collected : MarkedName.collect rows = MarkedName.collect (inv.storedNames id) :=
    marked ▸ MarkedName.collect_mark_of_proper proper
  rw [marked] at effect
  -- the name that rows show is the one that the material shows, so it is the same for both
  have shown : ((inv.putNames id rows).materialView id record).shownName =
      (inv.putNames id rows).shownName id := (checked.of_effect effect).shownName_materialView record
  rw [materialView_putNames, collected, shownName, storedNames_putNames, if_pos rfl] at shown
  exact ⟨_, step_eq_ok_iff.2 effect, readsSame_putNames valid (valid.of_effect effect) collected
    (shown.symm.trans (checked.shownName_materialView record))⟩

/-- The name that a unit shows can be saved. -/
theorem resaves_unitName (valid : inv.Valid) {unit : MeasureUnit}
    (found : inv.units.get? id = some unit) : inv.Resaves (.renameUnit id unit.name) := by
  obtain ⟨notBlank, trimmed⟩ := valid.unitName id unit found
  have free : inv.checkUnitName (· != id) unit.name = .ok unit.name := by
    refine checkUnitName_eq_ok.2 ⟨notBlank, (Text.trim_of_trimmed trimmed).symm, ?_⟩
    intro id' unit' found' isOther same
    have atOther := valid.unitKey id' unit' found'
    have differs : unit'.id ≠ id := bne_iff_ne.1 isOther
    exact differs (atOther.trans (valid.unitNamesDiffer id' id unit' unit found' found same))
  exact .of_same (.renameUnit free found) (putUnit_of_get? found)

/-- The unit that a material shows can be saved. -/
theorem resaves_unit (valid : inv.Valid) {record : StoredMaterial}
    (found : inv.materials.get? id = some record) :
    inv.Resaves (.changeUnit id (inv.materialView id record).unit.id) := by
  have measured := valid.measured id record found
  have shown : (inv.materialView id record).unit.id = record.unitId :=
    valid.unitKey _ _ (unit_eq_ok.1 (valid.unit_unitOf found))
  rw [shown]
  exact .of_same (.changeUnit measured found) (putMaterial_of_get? found)

end Valid

/-- The fields that a product shows can be saved. -/
theorem ProductsChecked.resaves_fields (checked : inv.ProductsChecked) {record : StoredProduct}
    (found : inv.products.get? id = some record) :
    inv.Resaves (.reviseProduct id record.name record.description) :=
  .of_same (.reviseProduct (checked id record found) (Table.mem_ids_of_get? found))
    (putProduct_of_get? found)

/-! ## Quantities -/

namespace Valid

variable {link : Link}

/-- What a part shows of its quantity is what was entered. -/
theorem ofInput_shownQuantity (valid : inv.Valid) (member : link ∈ inv.links) :
    .ofInput link.productId link.materialId (inv.partOf link).shownQuantity = link := by
  obtain ⟨denoted, trimmed⟩ := valid.entered link member
  have trim : Text.trim link.input = link.input := Text.trim_of_trimmed trimmed
  have input : (inv.partOf link).shownQuantity = link.input := by
    cases isQuantity : link.quantity with
    | some quantity => simp only [Material.shownQuantity, partOf, isQuantity, Option.map_some]
    | none =>
      -- what denotes no quantity is blank, and nothing is shown of it
      have blank := Quantity.ofInput?_eq_none_iff.1 (denoted.symm.trans isQuantity)
      simp only [Material.shownQuantity, partOf, isQuantity]
      exact (trim.symm.trans (Text.isBlankText_iff.1 blank)).symm
  rw [input, Link.ofInput, trim, ← denoted]

/-- The quantity that a part shows can be saved. -/
theorem resaves_quantity (valid : inv.Valid) (member : link ∈ inv.links) :
    inv.Resaves (.setPart link.productId link.materialId (inv.partOf link).shownQuantity) := by
  obtain ⟨product, material⟩ := valid.linked link member
  refine .of_same (.setPart product material) ?_
  have found : inv.links.find? (·.ends == link.ends) = some link :=
    (find?_key_eq_some_iff valid.linkedOnce).2 ⟨member, rfl⟩
  rw [valid.ofInput_shownQuantity member, Inventory.putLink, updateOrAppend_of_find? found]

end Valid

/-! ## Forms -/

/-- **Saving what is shown changes nothing**, whatever changes came before.  The name of a unit, the
unit and the names of a material, the fields of a product and the quantity of each material that it
lists can be saved as they are shown, and everything is read as before. -/
theorem resaving_changes_nothing (changes : List Change) :
    let inv := empty.run changes
    (∀ id unit, inv.unit id = .ok unit → inv.Resaves (.renameUnit id unit.name)) ∧
    (∀ id m, inv.material id = .ok m → inv.Resaves (.changeUnit id m.unit.id) ∧
      inv.Resaves (.renameMaterial id m.primaryName m.names)) ∧
    (∀ id p, inv.product id = .ok p → inv.Resaves (.reviseProduct id p.name p.description) ∧
      ∀ part ∈ p.materials, p.material? part.id = some part ∧
        inv.Resaves (.setPart id part.id part.shownQuantity)) := by
  intro inv
  have valid : inv.Valid := valid_empty.run changes
  refine ⟨fun id unit read => valid.resaves_unitName (unit_eq_ok.1 read), ?_, ?_⟩
  · intro id m read
    have found := get?_materialOf ((valid.finds_material id).answered.1 ⟨m, read⟩)
    cases (valid.material_eq_ok found).symm.trans read
    exact ⟨valid.resaves_unit found,
      valid.resaves_names (namesChecked_run_empty changes) found⟩
  · intro id p read
    obtain ⟨record, found⟩ := Table.mem_ids_iff.1 ((valid.finds_product id).answered.1 ⟨p, read⟩)
    cases (valid.product_eq_ok found).symm.trans read
    refine ⟨(productsChecked_run_empty changes).resaves_fields found, ?_⟩
    intro part listed
    obtain ⟨link, member, rfl⟩ := List.mem_map.1 listed
    obtain ⟨inside, atProduct⟩ := List.mem_filter.1 member
    obtain rfl : link.productId = id := eq_of_beq atProduct
    refine ⟨(find?_key_eq_some_iff (valid.nodup_parts _)).2 ⟨listed, rfl⟩, ?_⟩
    rw [id_partOf]
    exact valid.resaves_quantity inside

/-- Rice of which a name was given twice and none is marked, in a dish. -/
def kitchen : List Change :=
  let grams : MeasureUnit := { id := 1, name := "g" }
  [.addUnit " g ",
    .addMaterial { Material.new 0 grams with names := ["Rice", "Rice", "Reis"] },
    .addProduct { Product.new 0 "Risotto" with
      materials := [(Material.new 2 grams).enterQuantity " 2,50"] }]

theorem kitchen_can_be_saved :
    let inv := empty.run kitchen
    inv.Resaves (.renameUnit 1 "g") ∧
    (∃ m, inv.material 2 = .ok m ∧ m.names = ["Rice", "Reis"] ∧ m.primaryName = "" ∧
      inv.Resaves (.changeUnit 2 1) ∧ inv.Resaves (.renameMaterial 2 "" ["Rice", "Reis"])) ∧
    ∃ p, inv.product 3 = .ok p ∧ p.materials.map (·.shownQuantity) = ["2,50"] ∧
      inv.Resaves (.reviseProduct 3 "Risotto" "") ∧
        ∀ part ∈ p.materials, inv.Resaves (.setPart 3 part.id part.shownQuantity) := by
  intro inv
  have valid : inv.Valid := valid_empty.run kitchen
  have unit : inv.unit 1 = .ok { id := 1, name := "g" } := unit_eq_ok.2 (by decide +kernel)
  have rice : inv.material 2 = .ok (inv.materialView 2 ⟨1, ""⟩) :=
    valid.material_eq_ok (by decide +kernel)
  have risotto : inv.product 3 = .ok (inv.productView 3 ⟨"Risotto", ""⟩) :=
    valid.product_eq_ok (by decide +kernel)
  obtain ⟨units, materials, products⟩ := resaving_changes_nothing kitchen
  have sameName := units 1 _ unit
  obtain ⟨sameUnit, sameNames⟩ := materials 2 _ rice
  obtain ⟨sameFields, sameParts⟩ := products 3 _ risotto
  have names : (inv.materialView 2 ⟨1, ""⟩).names = ["Rice", "Reis"] := by decide +kernel
  have primary : (inv.materialView 2 ⟨1, ""⟩).primaryName = "" := by decide +kernel
  have unitId : (inv.materialView 2 ⟨1, ""⟩).unit.id = 1 := by decide +kernel
  rw [names, primary] at sameNames
  rw [unitId] at sameUnit
  have quantities : (inv.productView 3 ⟨"Risotto", ""⟩).materials.map (·.shownQuantity) =
      ["2,50"] := by decide +kernel
  exact ⟨sameName, ⟨_, rice, names, primary, sameUnit, sameNames⟩,
    ⟨_, risotto, quantities, sameFields, fun part member => (sameParts part member).2⟩⟩

end PartsCatalog.Inventory
