import PartsCatalog.Proofs.Catalog.Answers
import PartsCatalog.Proofs.Inventory.History
import PartsCatalog.Proofs.Inventory.Reachable

/-!
# Reads

Whatever changes came before, a list can be read, a single entry can be read exactly while it is
there, and no read ends in an internal fault (`reads_find_what_is_kept`).  The faults of the rows
themselves (cells that hold no identifier, missing names and units, numbers that are not finite) do
not arise, because every row is made from a valid inventory.
-/

namespace PartsCatalog

variable {α β γ : Type}

/-! ## Kinds of answers -/

/-- A look-up has an answer where something is present, and says that it is missing otherwise. -/
structure Finds (answer : Except Fault α) (missing : Fault) (present : Prop) : Prop where
  answered : (∃ a, answer = .ok a) ↔ present
  refused : answer = .error missing ↔ ¬ present
  kind : missing.kind = .notFound

theorem Finds.of_cases {answer : Except Fault α} {missing : Fault} {present : Prop}
    (there : present → ∃ a, answer = .ok a) (gone : ¬ present → answer = .error missing)
    (kind : missing.kind = .notFound) : Finds answer missing present where
  answered := by
    refine ⟨fun ⟨a, ended⟩ => ?_, there⟩
    by_contra absent
    rw [gone absent] at ended
    cases ended
  refused := by
    refine ⟨fun refused present => ?_, gone⟩
    obtain ⟨a, ended⟩ := there present
    rw [ended] at refused
    cases refused
  kind := kind

theorem Finds.congr {answer : Except Fault α} {missing : Fault} {present present' : Prop}
    (finds : Finds answer missing present) (same : present ↔ present') :
    Finds answer missing present' where
  answered := finds.answered.trans same
  refused := finds.refused.trans (not_congr same)
  kind := finds.kind

/-- The kind of fault in which an answer ends. -/
def faultKindOf? : Except Fault α → Option FaultKind
  | .ok _ => none
  | .error fault => some fault.kind

/-- An answer that is no internal fault. -/
def NotInternal (answer : Except Fault α) : Prop := faultKindOf? answer ≠ some .internal

namespace NotInternal

theorem ok (a : α) : NotInternal (.ok a : Except Fault α) := fun same => by cases same

theorem error {fault : Fault} (kind : fault.kind ≠ .internal) :
    NotInternal (.error fault : Except Fault α) := fun same => kind (Option.some.inj same)

theorem of_eq_ok {answer : Except Fault α} {a : α} (ended : answer = .ok a) : NotInternal answer :=
  ended ▸ ok a

theorem bind {answer : Except Fault α} {next : α → Except Fault β} (first : NotInternal answer)
    (second : ∀ a, NotInternal (next a)) : NotInternal (answer >>= next) := by
  cases answer with
  | ok a => exact second a
  | error fault => exact first

theorem mapM {read : α → Except Fault β} (each : ∀ a, NotInternal (read a)) (as : List α) :
    NotInternal (as.mapM read) := by
  induction as with
  | nil => exact ok []
  | cons a as ih =>
    rw [List.mapM_cons]
    exact (each a).bind fun b => ih.bind fun bs => ok (b :: bs)

theorem of_finds {answer : Except Fault α} {missing : Fault} {present : Prop}
    (finds : Finds answer missing present) : NotInternal answer := by
  by_cases there : present
  · obtain ⟨a, ended⟩ := finds.answered.2 there
    exact of_eq_ok ended
  · rw [finds.refused.2 there]
    exact error (by rw [finds.kind]; decide)

end NotInternal

namespace Inventory

variable {inv : Inventory}

/-! ## Look-ups -/

theorem finds_storedMaterial (inv : Inventory) (id : EntityId) :
    Finds (inv.storedMaterial id) (.materialMissing id) (id ∈ inv.materials.ids) := by
  refine .of_cases exists_storedMaterial.2 (fun absent => ?_) rfl
  rw [storedMaterial, Table.get?_eq_none_iff.2 absent]

theorem finds_storedProduct (inv : Inventory) (id : EntityId) :
    Finds (inv.storedProduct id) (.productMissing id) (id ∈ inv.products.ids) := by
  refine .of_cases exists_storedProduct.2 (fun absent => ?_) rfl
  rw [storedProduct, Table.get?_eq_none_iff.2 absent]

theorem finds_unit (inv : Inventory) (id : EntityId) :
    Finds (inv.unit id) (.unitMissing id) (id ∈ inv.units.ids) := by
  refine .of_cases (fun present => ?_) (fun absent => ?_) rfl
  · obtain ⟨unit, found⟩ := Table.mem_ids_iff.1 present
    exact ⟨unit, unit_eq_ok.2 found⟩
  · rw [Inventory.unit, Table.get?_eq_none_iff.2 absent]

theorem Valid.finds_material (valid : inv.Valid) (id : EntityId) :
    Finds (inv.material id) (.materialMissing id) (id ∈ inv.materials.ids) := by
  refine .of_cases (fun present => ?_) (fun absent => ?_) rfl
  · exact ⟨_, valid.material_eq_ok (get?_materialOf present)⟩
  · rw [material, materialEntry, (inv.finds_storedMaterial id).refused.2 absent]
    rfl

theorem Valid.finds_product (valid : inv.Valid) (id : EntityId) :
    Finds (inv.product id) (.productMissing id) (id ∈ inv.products.ids) := by
  refine .of_cases (fun present => ?_) (fun absent => ?_) rfl
  · obtain ⟨record, found⟩ := Table.mem_ids_iff.1 present
    exact ⟨_, valid.product_eq_ok found⟩
  · rw [product, productEntry, (inv.finds_storedProduct id).refused.2 absent]
    rfl

end Inventory

namespace Owner

/-- An owner of files as an entry. -/
def entry : Owner → Entry
  | material id => .material id
  | product id => .product id

/-- The fault for an owner that is not there. -/
def missing : Owner → Fault
  | material id => .materialMissing id
  | product id => .productMissing id

end Owner

namespace Inventory

theorem finds_files (inv : Inventory) (owner : Owner) :
    Finds (inv.files owner) owner.missing (inv.Holds owner.entry) := by
  cases owner with
  | material id =>
    refine .of_cases (fun present => ?_) (fun absent => ?_) rfl
    · have owned : inv.checkOwner (.material id) = .ok () := checkOwner_eq_ok.2 present
      rw [files, owned]
      exact ⟨_, rfl⟩
    · rw [files, checkOwner, (inv.finds_storedMaterial id).refused.2 absent]
      rfl
  | product id =>
    refine .of_cases (fun present => ?_) (fun absent => ?_) rfl
    · have owned : inv.checkOwner (.product id) = .ok () := checkOwner_eq_ok.2 present
      rw [files, owned]
      exact ⟨_, rfl⟩
    · rw [files, checkOwner, (inv.finds_storedProduct id).refused.2 absent]
      rfl

end Inventory

/-! ## Reports -/

theorem notInternal_requirement? (m : Material) (perUnit : Binary64) (count : Nat) (stock : Stock) :
    NotInternal (m.requirement? perUnit count stock) := by
  simp only [Material.requirement?]
  split
  · exact .ok _
  · exact .error FaultKind.noConfusion

theorem notInternal_ofProduct (p : Product) (count : Nat) (stock : Stock) :
    NotInternal (Report.ofProduct p count stock) := by
  unfold Report.ofProduct Report.ofMaterials
  split
  · exact .error FaultKind.noConfusion
  · refine (NotInternal.mapM (fun pair => ?_) _).bind fun _ => .ok _
    exact (notInternal_requirement? pair.1 pair.2 count stock).bind fun _ => .ok _

/-! ## All reads -/

/-- Everything that can be read: the rows of the tables, and what the catalog makes of them. -/
inductive Read where
  | materialRows
  | productRows
  | materialEntry (id : EntityId)
  | namesOf (id : EntityId)
  | useRowsOf (id : EntityId)
  | productEntry (id : EntityId)
  | partRowsOf (id : EntityId)
  | unit (id : EntityId)
  | files (owner : Owner)
  | listMaterials
  | listProducts
  | material (id : EntityId)
  | product (id : EntityId)
  | viewMaterials (filter : MaterialFilter) (sort : Sorting)
  | viewProducts (filter : ProductFilter) (sort : Sorting)
  | search (query : String) (limit : Nat)
  | report (productId : EntityId) (count : Nat) (stock : Stock)

/-- The kind of fault in which a read ends. -/
def Read.faultKind? (inv : Inventory) : Read → Option FaultKind
  | materialRows => faultKindOf? inv.materialRows
  | productRows => faultKindOf? inv.productRows
  | materialEntry id => faultKindOf? (inv.materialEntry id)
  | namesOf id => faultKindOf? (inv.namesOf id)
  | useRowsOf id => faultKindOf? (inv.useRowsOf id)
  | productEntry id => faultKindOf? (inv.productEntry id)
  | partRowsOf id => faultKindOf? (inv.partRowsOf id)
  | unit id => faultKindOf? (inv.unit id)
  | files owner => faultKindOf? (inv.files owner)
  | listMaterials => faultKindOf? inv.listMaterials
  | listProducts => faultKindOf? inv.listProducts
  | material id => faultKindOf? (inv.material id)
  | product id => faultKindOf? (inv.product id)
  | viewMaterials filter sort => faultKindOf? (inv.viewMaterials filter sort)
  | viewProducts filter sort => faultKindOf? (inv.viewProducts filter sort)
  | search query limit => faultKindOf? (inv.search query limit)
  | report productId count stock => faultKindOf? (inv.report productId count stock)

namespace Inventory

variable {inv : Inventory}

theorem Valid.faultKind?_read (valid : inv.Valid) (read : Read) :
    read.faultKind? inv ≠ some .internal := by
  have materials := NotInternal.of_eq_ok valid.listMaterials_eq_ok
  have products := NotInternal.of_eq_ok valid.listProducts_eq_ok
  have stored id := NotInternal.of_finds (inv.finds_storedMaterial id)
  have storedProduct id := NotInternal.of_finds (inv.finds_storedProduct id)
  have unit id := NotInternal.of_finds (inv.finds_unit id)
  cases read with
  | materialRows => exact NotInternal.of_eq_ok valid.materialRows_eq_ok
  | productRows => exact NotInternal.of_eq_ok valid.productRows_eq_ok
  | materialEntry id => exact (stored id).bind fun _ => (unit _).bind fun _ => .ok _
  | namesOf id => exact (stored id).bind fun _ => .ok _
  | useRowsOf id =>
    exact (stored id).bind fun _ => .mapM (fun _ => (storedProduct _).bind fun _ => .ok _) _
  | productEntry id => exact (storedProduct id).bind fun _ => .ok _
  | partRowsOf id =>
    exact (storedProduct id).bind fun _ =>
      .mapM (fun _ => (stored _).bind fun _ => (unit _).bind fun _ => .ok _) _
  | unit id => exact unit id
  | files owner => exact NotInternal.of_finds (inv.finds_files owner)
  | listMaterials => exact materials
  | listProducts => exact products
  | material id => exact NotInternal.of_finds (valid.finds_material id)
  | product id => exact NotInternal.of_finds (valid.finds_product id)
  | viewMaterials filter sort => exact materials.bind fun _ => .ok _
  | viewProducts filter sort => exact products.bind fun _ => .ok _
  | search query limit => exact materials.bind fun _ => products.bind fun _ => .ok _
  | report productId count stock =>
    exact (NotInternal.of_finds (valid.finds_product productId)).bind fun p =>
      notInternal_ofProduct p count stock

/-- **Reads find what is kept**: after any run of changes the lists can be read; a material, a
product, a unit and the files of an owner can be read exactly while the entry is kept, and are
missing otherwise; and no read ends in an internal fault. -/
theorem reads_find_what_is_kept (changes : List Change) :
    let inv := empty.run changes
    let log := empty.history changes
    (∃ ms, inv.listMaterials = .ok ms) ∧ (∃ ps, inv.listProducts = .ok ps) ∧
      (∀ id, Finds (inv.material id) (.materialMissing id) (Kept log (.material id))) ∧
      (∀ id, Finds (inv.product id) (.productMissing id) (Kept log (.product id))) ∧
      (∀ id, Finds (inv.unit id) (.unitMissing id) (Kept log (.unit id))) ∧
      (∀ owner, Finds (inv.files owner) owner.missing (Kept log owner.entry)) ∧
      ∀ read : Read, read.faultKind? inv ≠ some .internal := by
  intro inv log
  have valid : inv.Valid := valid_empty.run changes
  have held (entry : Entry) : inv.Holds entry ↔ Kept log entry := holds_run_empty changes entry
  refine ⟨⟨_, valid.listMaterials_eq_ok⟩, ⟨_, valid.listProducts_eq_ok⟩, ?_, ?_, ?_, ?_,
    valid.faultKind?_read⟩
  · intro id
    exact (valid.finds_material id).congr (held (.material id))
  · intro id
    exact (valid.finds_product id).congr (held (.product id))
  · intro id
    exact (inv.finds_unit id).congr (held (.unit id))
  · intro owner
    exact (inv.finds_files owner).congr (held owner.entry)

end Inventory

end PartsCatalog
