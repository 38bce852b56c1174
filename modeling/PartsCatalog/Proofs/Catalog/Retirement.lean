import PartsCatalog.Proofs.Catalog.Reads
import PartsCatalog.Proofs.Inventory.Identifiers
import PartsCatalog.Proofs.Inventory.Refusal

/-!
# Identifiers serve once

What was removed, by itself or with its owner, is never found again under its identifier, whatever
changes come after (`identifiers_serve_once`): nothing is read there, and every change that works on
it fails.  Most of them say that it was not found; those that check a value which they bring along
before they look anything up may refuse that value instead (`blank_name_is_refused_first`).
-/

namespace PartsCatalog

/-- The identifier under which something is read. -/
def Read.subject? : Read → Option EntityId
  | materialEntry id | namesOf id | useRowsOf id | productEntry id | partRowsOf id | unit id
  | material id | product id | report id .. => some id
  | files owner => some owner.id
  | materialRows | productRows | listMaterials | listProducts | viewMaterials .. | viewProducts ..
  | search .. => none

namespace Inventory

/-- Nothing is known under an identifier. -/
structure Unknown (inv : Inventory) (id : EntityId) : Prop where
  /-- Whatever is read there is not found. -/
  read : ∀ read : Read, read.subject? = some id → read.faultKind? inv = some .notFound
  /-- No owner has such a file. -/
  file : ∀ owner files, inv.files owner = .ok files → files.file? id = none
  /-- A change that works on it or refers to it does not find it. -/
  change : ∀ change : Change, id ∈ change.subjects → change.checkValues inv = .ok () →
    ∃ fault, inv.step change = (inv, .error fault) ∧ fault.kind = .notFound
  /-- A change whose values are refused does not come to look for it. -/
  refused : ∀ (change : Change) (fault : Fault), id ∈ change.subjects →
    change.checkValues inv = .error fault → inv.step change = (inv, .error fault)
  /-- No product has it as a material to take out. -/
  part : ∀ productId ∈ inv.products.ids,
    inv.step (.removePart productId id) = (inv, .ok (.takenOut false))

variable {inv : Inventory} {id : EntityId}

/-! ## What is not in use is not known -/

theorem faultKind?_of_unused (valid : inv.Valid) (unused : id ∉ inv.idsInUse) (read : Read)
    (subject : read.subject? = some id) : read.faultKind? inv = some .notFound := by
  have ofMissing {α : Type} {answer : Except Fault α} {missing : Fault} {present : Prop}
      (finds : Finds answer missing present) (absent : ¬ present) :
      faultKindOf? answer = some .notFound := by
    rw [finds.refused.2 absent, faultKindOf?, finds.kind]
  have ofMissingFirst {α β : Type} {answer : Except Fault α} {next : α → Except Fault β}
      (first : faultKindOf? answer = some .notFound) :
      faultKindOf? (answer >>= next) = some .notFound := by
    cases answer with
    | ok a => cases first
    | error fault => exact first
  have noUnit : id ∉ inv.units.ids := fun member => unused (mem_idsInUse_of_units member)
  have noMaterial : id ∉ inv.materials.ids :=
    fun member => unused (mem_idsInUse_of_materials member)
  have noProduct : id ∉ inv.products.ids := fun member => unused (mem_idsInUse_of_products member)
  have stored := ofMissing (inv.finds_storedMaterial id) noMaterial
  have storedProduct := ofMissing (inv.finds_storedProduct id) noProduct
  cases read with
  | materialRows | productRows | listMaterials | listProducts | viewMaterials | viewProducts
  | search => cases subject
  | materialEntry | namesOf | useRowsOf =>
    obtain rfl := Option.some.inj subject
    exact ofMissingFirst stored
  | productEntry | partRowsOf =>
    obtain rfl := Option.some.inj subject
    exact ofMissingFirst storedProduct
  | unit =>
    obtain rfl := Option.some.inj subject
    exact ofMissing (inv.finds_unit _) noUnit
  | material =>
    obtain rfl := Option.some.inj subject
    exact ofMissing (valid.finds_material _) noMaterial
  | product =>
    obtain rfl := Option.some.inj subject
    exact ofMissing (valid.finds_product _) noProduct
  | report =>
    obtain rfl := Option.some.inj subject
    exact ofMissingFirst (ofMissing (valid.finds_product _) noProduct)
  | files owner =>
    obtain rfl := Option.some.inj subject
    refine ofMissing (inv.finds_files owner) fun held => ?_
    cases owner with
    | material => exact noMaterial held
    | product => exact noProduct held

theorem file?_of_unused (unused : id ∉ inv.idsInUse) {owner : Owner} {files : Attachments}
    (read : inv.files owner = .ok files) : files.file? id = none := by
  obtain ⟨-, -, read⟩ := bind_eq_ok.1 read
  obtain rfl := pure_eq_ok.1 read
  cases found : inv.attachmentsOf? owner with
  | none => rfl
  | some files =>
    refine Option.eq_none_iff_forall_not_mem.2 fun file inside => unused ?_
    exact mem_idsInUse_of_file found inside

/-- Where a material is not in use, no link leads to it. -/
theorem step_removePart_of_unused (valid : inv.Valid) (unused : id ∉ inv.idsInUse)
    {productId : EntityId} (product : productId ∈ inv.products.ids) :
    inv.step (.removePart productId id) = (inv, .ok (.takenOut false)) := by
  have other : ∀ link ∈ inv.links, link.ends ≠ (productId, id) := by
    rintro link member same
    have linked : link.materialId ∈ inv.materials.ids := (valid.linked link member).2
    rw [show link.materialId = id from congrArg Prod.snd same] at linked
    exact unused (mem_idsInUse_of_materials linked)
  have removed : inv.step (.removePart productId id) = _ :=
    step_eq_ok_iff.2 (.removePart product)
  rwa [dropLink, List.filter_eq_self.2 fun link member => bne_iff_ne.2 (other link member),
    List.any_eq_false.2 fun link member => beq_iff_eq.not.2 (other link member)] at removed

theorem Retired.unknown (retired : inv.Retired id) (valid : inv.Valid) : inv.Unknown id where
  read := faultKind?_of_unused valid retired.unused
  file := fun _ _ => file?_of_unused retired.unused
  change := by
    intro change subject proper
    obtain ⟨fault, ended, missed | refused⟩ := refused_of_missing valid retired.unused subject
    · exact ⟨fault, ended, missed⟩
    · cases proper.symm.trans refused
  refused := fun _ _ _ => step_of_checkValues_error
  part := fun _ => step_removePart_of_unused valid retired.unused

/-! ## Identifiers serve once -/

/-- **An identifier serves once**, in every run of changes.  The identifiers given out are the
numbers from one on, in ascending order and for units, materials, products and files alike; a change
that fails takes none.  Once something was removed, by itself or with its owner, nothing is known
under its identifier, whatever changes come after. -/
theorem identifiers_serve_once (changes : List Change) :
    let given := (empty.history changes).flatMap Event.given
    (∃ count, given = numbersAbove 0 count) ∧ given.Pairwise (· < ·) ∧
      (∀ change fault, ((empty.run changes).step change).2 = .error fault →
        ((empty.run changes).step change).1 = empty.run changes) ∧
      ∀ before change after outcome id, changes = before ++ change :: after →
        ((empty.run before).step change).2 = .ok outcome →
        id ∈ (empty.run before).taken change → (empty.run changes).Unknown id := by
  intro given
  obtain ⟨count, listed⟩ := given_run changes empty
  refine ⟨⟨count, listed⟩, ?_, ?_, ?_⟩
  · rw [show given = numbersAbove 0 count from listed]
    exact pairwise_numbersAbove _ _
  · intro change fault failed
    rcases (empty.run changes).step_cases change with ⟨outcome, inv', ended, -⟩ | ⟨fault, ended⟩
    · rw [ended] at failed
      cases failed
    · rw [ended]
  · rintro before change after outcome id rfl succeeded taken
    have valid : (empty.run before).Valid := valid_empty.run before
    have effect : Effect (empty.run before) change outcome ((empty.run before).step change).1 :=
      step_eq_ok_iff.1 (Prod.ext rfl succeeded)
    have retired := (retired_of_taken valid effect taken).run (valid.of_effect effect) after
    rw [run_append]
    exact retired.unknown ((valid.of_effect effect).run after)

/-- The steel with a file is removed, and wood comes after it. -/
def replacement : List Change :=
  let named (name : String) := { Material.new 0 { id := 1, name := "kg" } with names := [name] }
  [.addUnit "kg", .addMaterial (named "Steel"),
    .addFile (.material 2) "steel.png" "steel.png" "image/png" 1, .removeMaterial 2,
    .addMaterial (named "Wood")]

theorem replacement_forgets_steel :
    let inv := empty.run replacement
    (empty.history replacement).flatMap Event.given = [1, 2, 3, 4] ∧ inv.Unknown 2 ∧
      inv.Unknown 3 := by
  intro inv
  obtain ⟨-, -, -, forgets⟩ := identifiers_serve_once replacement
  have removed := forgets (replacement.take 3) (.removeMaterial 2) (replacement.drop 4) .done
  exact ⟨by decide, removed 2 rfl rfl (by decide), removed 3 rfl rfl (by decide)⟩

/-- A removed unit is to get a blank name: the change says that the name is blank and not that the
unit is missing. -/
theorem blank_name_is_refused_first :
    ¬ ∀ (before after : List Change) (removal update : Change) (outcome : Outcome) (id : EntityId),
      ((empty.run before).step removal).2 = .ok outcome → id ∈ (empty.run before).taken removal →
      id ∈ update.subjects →
      ∃ fault, ((empty.run (before ++ removal :: after)).step update).2 = .error fault ∧
        fault.kind = .notFound := by
  intro always
  obtain ⟨fault, failed, missing⟩ :=
    always [.addUnit "kg"] [] (.removeUnit 1) (.renameUnit 1 "") .done 1 rfl (by decide) (by decide)
  have blank : ((empty.run [.addUnit "kg", .removeUnit 1]).step (.renameUnit 1 "")).2 =
      .error (.fieldBlank "單位名稱") := rfl
  cases blank.symm.trans failed
  cases missing

end Inventory

end PartsCatalog
