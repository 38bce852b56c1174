import PartsCatalog.Proofs.Catalog.Removal
import PartsCatalog.Proofs.Names

/-!
# Names survive storage

A material that a form describes is read as it was described once it is added, in the unit that is
there, and a material that gets other names is read with these, whatever changes came before
(`names_survive_storage`).  Names are kept as marked rows and collected from them again; what comes
out is what went in because a form leaves proper names only.
-/

namespace PartsCatalog

namespace Inventory

variable {inv inv' : Inventory} {id : EntityId} {record : StoredMaterial} {primaryName : String}
  {names : List String} {fault : Fault}

/-- A material came in, and everything else is read as before. -/
structure GainsMaterial (inv inv' : Inventory) (m : Material) : Prop where
  found : inv'.material m.id = .ok m
  material : ∀ id, id ≠ m.id → inv'.material id = inv.material id
  product : ∀ id, inv'.product id = inv.product id
  unit : ∀ id, inv'.unit id = inv.unit id
  files : ∀ owner, owner ≠ .material m.id → inv'.files owner = inv.files owner
  listMaterials : inv'.listMaterials = inv.listMaterials.map (· ++ [m])
  listProducts : inv'.listProducts = inv.listProducts
  listUnits : inv'.listUnits = inv.listUnits

/-! ## Adding a material -/

variable {rows : List MarkedName}

theorem storedNames_putNames (other : EntityId) :
    (inv.putNames id rows).storedNames other =
      if other = id then rows else inv.storedNames other := by
  rw [storedNames, putNames]
  split
  · next same => rw [same, Table.get?_insert_self, Option.getD_some]
  · next differs => rw [Table.get?_insert_of_ne differs, storedNames]

/-- The inventory with a material of the next identifier. -/
def withMaterial (inv : Inventory) (record : StoredMaterial) (names : List MarkedName) :
    Inventory :=
  (inv.advance.putMaterial inv.nextId record).putNames inv.nextId names

theorem get?_withMaterial (other : id ≠ inv.nextId) :
    (inv.withMaterial record rows).materials.get? id = inv.materials.get? id :=
  Table.get?_insert_of_ne other

theorem storedNames_withMaterial (other : id ≠ inv.nextId) :
    (inv.withMaterial record rows).storedNames id = inv.storedNames id := by
  rw [withMaterial, storedNames_putNames, if_neg other]
  rfl

/-- What was there is viewed as before. -/
theorem materialView_withMaterial (other : id ≠ inv.nextId) :
    (inv.withMaterial record rows).materialView id = inv.materialView id := by
  funext record'
  rw [materialView, materialView, storedNames_withMaterial other]
  rfl

theorem partOf_withMaterial {link : Link} (other : link.materialId ≠ inv.nextId) :
    (inv.withMaterial record rows).partOf link = inv.partOf link := by
  have kept : (inv.withMaterial record rows).materialOf link.materialId =
      inv.materialOf link.materialId := by
    rw [materialOf, materialOf, get?_withMaterial other]
  have name : (inv.withMaterial record rows).shownName link.materialId =
      inv.shownName link.materialId := by
    rw [shownName, shownName, storedNames_withMaterial other]
  rw [partOf, partOf, kept, name]
  rfl

namespace Valid

theorem ne_nextId (valid : inv.Valid) (present : id ∈ inv.materials.ids) : id ≠ inv.nextId :=
  Int.ne_of_lt (valid.ids.lt_nextId (mem_idsInUse_of_materials present))

theorem productView_withMaterial (valid : inv.Valid) :
    (inv.withMaterial record rows).productView = inv.productView := by
  funext productId product
  have parts : (inv.partsOf productId).map (inv.withMaterial record rows).partOf =
      (inv.partsOf productId).map inv.partOf :=
    List.map_congr_left fun link member =>
      partOf_withMaterial (valid.ne_nextId (valid.linked link (List.mem_filter.1 member).1).2)
  rw [productView, productView, ← parts]
  rfl

/-- No product takes a material that is not there yet. -/
theorem usesOf_nextId (valid : inv.Valid) : inv.usesOf inv.nextId = [] := by
  rw [usesOf, List.filter_eq_nil_iff]
  intro link member atNext
  exact valid.ne_nextId (valid.linked link member).2 (eq_of_beq atNext)

/-- What a material that came in is read as. -/
theorem materialView_nextId (valid : inv.Valid) {unit : MeasureUnit}
    (measured : inv.units.get? record.unitId = some unit) :
    (inv.withMaterial record rows).materialView inv.nextId record =
      { Material.new inv.nextId unit with
        names := (MarkedName.collect rows).1
        primaryName := (MarkedName.collect rows).2
        description := record.description } := by
  have names : (inv.withMaterial record rows).storedNames inv.nextId = rows := by
    rw [withMaterial, storedNames_putNames, if_pos rfl]
  have uses : (inv.withMaterial record rows).usesOf inv.nextId = [] := valid.usesOf_nextId
  have unitOf : (inv.withMaterial record rows).unitOf record = unit := by
    rw [Inventory.unitOf, show (inv.withMaterial record rows).units = inv.units from rfl, measured,
      Option.getD_some]
  rw [materialView, names, uses, unitOf]
  rfl

/-- A material that comes in is found, and everything else is read as before. -/
theorem gainsMaterial (valid : inv.Valid) (valid' : (inv.withMaterial record rows).Valid)
    {unit : MeasureUnit} (measured : inv.units.get? record.unitId = some unit) :
    inv.GainsMaterial (inv.withMaterial record rows)
      { Material.new inv.nextId unit with
        names := (MarkedName.collect rows).1
        primaryName := (MarkedName.collect rows).2
        description := record.description } where
  found := by
    have stored : (inv.withMaterial record rows).materials.get? inv.nextId = some record :=
      Table.get?_insert_self
    rw [← valid.materialView_nextId measured]
    exact valid'.material_eq_ok stored
  material := fun _ other =>
    valid.material_same valid' (get?_withMaterial other) (materialView_withMaterial other)
  product := fun id => valid.product_same valid' rfl (congrFun valid.productView_withMaterial id)
  unit := fun _ => rfl
  files := by
    intro owner other
    cases owner with
    | material id =>
      have differs : id ≠ inv.nextId := fun same => other (same ▸ rfl)
      have kept : (inv.withMaterial record rows).storedMaterial id = inv.storedMaterial id := by
        rw [storedMaterial, storedMaterial, get?_withMaterial differs]
      rw [Inventory.files, Inventory.files, checkOwner, checkOwner, kept]
      rfl
    | product id => rfl
  listMaterials := by
    have entries : (inv.withMaterial record rows).materials.entries =
        inv.materials.entries ++ [(inv.nextId, record)] :=
      Table.entries_insert_of_above fun id present =>
        valid.ids.lt_nextId (mem_idsInUse_of_materials present)
    have listed : ∀ entry ∈ inv.materials.entries,
        (inv.withMaterial record rows).materialListed entry.1 entry.2 =
          inv.materialListed entry.1 entry.2 := by
      intro entry member
      have other := valid.ne_nextId (List.mem_map_of_mem member)
      rw [materialListed, materialListed, materialView_withMaterial other]
      rfl
    have new : (inv.withMaterial record rows).materialListed inv.nextId record =
        (inv.withMaterial record rows).materialView inv.nextId record := by
      rw [materialListed, show (inv.withMaterial record rows).usesOf inv.nextId = [] from
        valid.usesOf_nextId, valid.materialView_nextId measured]
      rfl
    rw [valid'.listMaterials_eq_ok, valid.listMaterials_eq_ok, entries, List.map_append,
      List.map_congr_left listed, List.map_singleton, new, valid.materialView_nextId measured]
    rfl
  listProducts := valid.listProducts_same valid' rfl valid.productView_withMaterial
  listUnits := rfl

/-- A material with proper names can be added and is read as it was given. -/
theorem step_addMaterial (valid : inv.Valid) {m : Material} {unit : MeasureUnit}
    (passed : FieldCheck.names m.names = .ok ()) (proper : ProperNames m.names m.primaryName)
    (measured : inv.units.get? m.unit.id = some unit) :
    ∃ inv', inv.step (.addMaterial m) = (inv', .ok (.added inv.nextId)) ∧
      inv.GainsMaterial inv'
        { Material.new inv.nextId unit with
          names := m.names, primaryName := m.primaryName, description := m.description } := by
  have effect : Effect inv (.addMaterial m) (.added inv.nextId)
      (inv.withMaterial { unitId := m.unit.id, description := m.description }
        (MarkedName.mark m.primaryName m.names)) :=
    .addMaterial passed (Table.mem_ids_of_get? measured)
  have gains := valid.gainsMaterial (valid.of_effect effect) measured
  rw [MarkedName.collect_mark_of_proper proper] at gains
  exact ⟨_, step_eq_ok_iff.2 effect, gains⟩

end Valid

/-! ## Renaming a material -/

/-- A material whose rows are replaced is read with the names of the new rows. -/
theorem materialView_putNames (record : StoredMaterial) (rows : List MarkedName) :
    (inv.putNames id rows).materialView id record =
      { inv.materialView id record with
        names := (MarkedName.collect rows).1, primaryName := (MarkedName.collect rows).2 } := by
  rw [materialView, storedNames_putNames, if_pos rfl]
  rfl

/-- Renaming a material fails where the names are refused. -/
theorem step_renameMaterial_error (found : inv.materials.get? id = some record)
    (refused : FieldCheck.names (Material.collectNames primaryName names) = .error fault) :
    inv.step (.renameMaterial id primaryName names) = (inv, .error fault) := by
  have stored : inv.storedMaterial id = .ok record := storedMaterial_eq_ok.2 found
  have failed := Material.setNames_eq_error_iff
    (m := Material.new id { id := record.unitId, name := "" }).2 refused
  have ran : (Change.perform (.renameMaterial id primaryName names)).run inv =
      .error fault inv := by
    rw [Change.perform, Change.perform.done, map_eq_pure_bind]
    simp only [renameMaterial, EStateM.run_bind, Action.run_consult, stored, failed]
  rw [step, ran]

/-- A material that is there gets names that pass the check and is read with them. -/
theorem Valid.step_renameMaterial (valid : inv.Valid) (found : inv.materials.get? id = some record)
    (passed : FieldCheck.names (Material.collectNames primaryName names) = .ok ()) :
    ∃ inv', inv.step (.renameMaterial id primaryName names) = (inv', .ok .done) ∧
      inv'.material id = .ok { inv.materialView id record with
        names := Material.collectNames primaryName names, primaryName } := by
  have effect := Effect.renameMaterial found (Material.setNames_of_passed passed)
  have read := (valid.of_effect effect).material_eq_ok found
  rw [materialView_putNames, MarkedName.collect_mark_of_proper
    (properNames_collectNames primaryName names)] at read
  exact ⟨_, step_eq_ok_iff.2 effect, read⟩

/-! ## Storage -/

/-- **Names survive storage**, whatever changes came before.  A material that a form describes in a
unit that is there can be added, under an identifier that is not in use; it is read with the names,
the primary name and the description of the form, in the unit that is kept and without products, and
everything else is read as before.  A material that is there can be renamed exactly where the names
pass the check, and is then read with the new names; everything else about it stays. -/
theorem names_survive_storage (changes : List Change) :
    let inv := empty.run changes
    (∀ given unit primaryName names description m,
      inv.unit given.id = .ok unit →
      Material.ofInput primaryName names given description = .ok m →
      ∃ inv', inv.step (.addMaterial m) = (inv', .ok (.added inv.nextId)) ∧
        inv.nextId ∉ inv.idsInUse ∧ m.products = [] ∧
        inv.GainsMaterial inv' { m with id := inv.nextId, unit }) ∧
    (∀ id shown primaryName names, inv.material id = .ok shown →
      (∀ fault, inv.step (.renameMaterial id primaryName names) = (inv, .error fault) ↔
        shown.setNames primaryName names = .error fault) ∧
      ∀ named, shown.setNames primaryName names = .ok named →
        ∃ inv', inv.step (.renameMaterial id primaryName names) = (inv', .ok .done) ∧
          inv'.material id = .ok named ∧ named.unit = shown.unit ∧
          named.description = shown.description ∧ named.products = shown.products) := by
  intro inv
  have valid : inv.Valid := valid_empty.run changes
  constructor
  · intro given unit primaryName names description m measured described
    obtain ⟨passed, rfl⟩ := Material.setNames_eq_ok described
    obtain ⟨inv', added, gains⟩ := valid.step_addMaterial
      (m := { (Material.new 0 given).withDescription description with
        names := Material.collectNames primaryName names, primaryName })
      passed (properNames_collectNames primaryName names) (unit_eq_ok.1 measured)
    exact ⟨inv', added, valid.ids.nextId_not_mem, rfl, gains⟩
  · intro id shown primaryName names read
    have found := get?_materialOf ((valid.finds_material id).answered.1 ⟨shown, read⟩)
    cases (valid.material_eq_ok found).symm.trans read
    constructor
    · intro fault
      rw [Material.setNames_eq_error_iff]
      refine ⟨fun failed => ?_, step_renameMaterial_error found⟩
      cases checked : FieldCheck.names (Material.collectNames primaryName names) with
      | ok =>
        obtain ⟨inv', renamed, -⟩ := valid.step_renameMaterial found checked
        cases renamed.symm.trans failed
      | error fault' =>
        cases (step_renameMaterial_error found checked).symm.trans failed
        rfl
    · intro named replaced
      obtain ⟨passed, rfl⟩ := Material.setNames_eq_ok replaced
      obtain ⟨inv', renamed, read'⟩ := valid.step_renameMaterial found passed
      exact ⟨inv', renamed, read', rfl, rfl, rfl⟩

/-- What a form describes that names a strut twice and leaves one name empty. -/
def strut : Material :=
  { Material.new 0 { id := 1, name := "" } with
    names := ["Strut", "Frame"], primaryName := "Frame", description := "welded" }

theorem bench_keeps_strut_and_iron :
    let inv := empty.run bench
    (∃ inv', inv.step (.addMaterial strut) = (inv', .ok (.added 5)) ∧
      inv.GainsMaterial inv' { strut with id := 5, unit := { id := 1, name := "kg" } }) ∧
    (∃ inv' shown named, inv.material 2 = .ok shown ∧
      inv.step (.renameMaterial 2 "Iron" ["Iron ore", "", "Iron ore"]) = (inv', .ok .done) ∧
        inv'.material 2 = .ok named ∧ named.names = ["Iron ore", "Iron"] ∧
          named.primaryName = "Iron" ∧ named.products = shown.products) ∧
    inv.step (.renameMaterial 2 "" [""]) = (inv, .error .nameMissing) := by
  intro inv
  have valid : inv.Valid := valid_empty.run bench
  have measured : inv.unit 1 = .ok { id := 1, name := "kg" } := unit_eq_ok.2 (by decide)
  obtain ⟨shown, read⟩ := (valid.finds_material 2).answered.2 (by decide)
  obtain ⟨added, renamed⟩ := names_survive_storage bench
  obtain ⟨inv', step, -, -, gains⟩ := added { id := 1, name := "" } { id := 1, name := "kg" }
    "Frame" ["Strut", "", "Frame", "Strut"] "welded" strut measured rfl
  refine ⟨⟨inv', step, gains⟩, ?_, ?_⟩
  · obtain ⟨inv', step, read', -, -, products⟩ :=
      (renamed 2 shown "Iron" ["Iron ore", "", "Iron ore"] read).2 _ rfl
    exact ⟨inv', shown, _, read, step, read', rfl, rfl, products⟩
  · exact ((renamed 2 shown "" [""] read).1 .nameMissing).2 rfl

end Inventory

end PartsCatalog
