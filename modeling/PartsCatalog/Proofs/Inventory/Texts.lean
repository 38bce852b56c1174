import Mathlib.Data.List.Induction
import PartsCatalog.Proofs.Inventory.History
import PartsCatalog.Proofs.Inventory.Naming
import PartsCatalog.Proofs.Inventory.Refusal

/-!
# Texts in the inventory

The texts that are kept keep the rules of their fields, whichever changes brought them
(`texts_keep_their_rules`).  The description of a material is the one that can be longer than
describing the material allows: it is checked when it is changed, but not when the material comes in
with it (`newcomer_is_described_at_length`).
-/

namespace PartsCatalog

namespace Inventory

variable {inv inv' : Inventory} {change : Change} {outcome : Outcome} {id : EntityId}

theorem checkProductFields_eq_ok {name description : String} :
    checkProductFields name description = .ok () ↔
      Text.isBlankText name = false ∧ description.length ≤ Limits.descriptionMost := by
  rw [checkProductFields, bind_eq_ok, ← FieldCheck.description_eq_ok]
  exact ⟨fun ⟨_, named, short⟩ => ⟨FieldCheck.required_eq_ok.1 named, short⟩,
    fun ⟨named, short⟩ => ⟨(), FieldCheck.required_eq_ok.2 named, short⟩⟩

/-! ## Products -/

/-- The fields that are kept of every product pass their checks. -/
def ProductsChecked (inv : Inventory) : Prop :=
  ∀ id record, inv.products.get? id = some record →
    checkProductFields record.name record.description = .ok ()

theorem ProductsChecked.of_effect (checked : inv.ProductsChecked)
    (effect : Effect inv change outcome inv') : inv'.ProductsChecked := by
  cases effect with
  | @addProduct p proper =>
    obtain ⟨links, parts⟩ := exists_putParts_eq inv.nextId p.materials (inv.advance.putProduct
      inv.nextId { name := p.name, description := p.description })
    rw [parts]
    exact Table.forall_get?_insert proper checked
  | reviseProduct proper => exact Table.forall_get?_insert proper checked
  | removeProduct => exact Table.forall_get?_erase checked
  -- no other change touches a product
  | addUnit | renameUnit | removeUnit | addMaterial | renameMaterial | changeUnit | describeMaterial
  | removeMaterial | setPart | removePart | addFile | choosePicture | removeFile => exact checked

theorem productsChecked_run_empty (changes : List Change) :
    (empty.run changes).ProductsChecked := by
  have checked : empty.ProductsChecked := by
    intro id record found
    cases found
  exact run_invariant ProductsChecked.of_effect checked changes

/-! ## Descriptions of materials -/

/-- The material came in with the description. -/
def CameWith (log : List Event) (id : EntityId) (description : String) : Prop :=
  ∃ m : Material, m.description = description ∧ ⟨.addMaterial m, .ok (.added id)⟩ ∈ log

/-- The description of every material passes the check, or the material came in with it. -/
def DescriptionsTraced (inv : Inventory) (log : List Event) : Prop :=
  ∀ id record, inv.materials.get? id = some record →
    FieldCheck.description record.description = .ok () ∨ CameWith log id record.description

variable {log : List Event}

theorem DescriptionsTraced.append (traced : inv.DescriptionsTraced log) (later : List Event) :
    inv.DescriptionsTraced (log ++ later) := fun id record found =>
  (traced id record found).imp_right fun ⟨m, same, member⟩ =>
    ⟨m, same, List.mem_append_left later member⟩

theorem DescriptionsTraced.of_effect (traced : inv.DescriptionsTraced log)
    (effect : Effect inv change outcome inv') :
    inv'.DescriptionsTraced (log ++ [⟨change, .ok outcome⟩]) := by
  have before := traced.append [⟨change, .ok outcome⟩]
  cases effect with
  | @addMaterial m proper measured =>
    refine Table.forall_get?_insert (.inr ⟨m, rfl, ?_⟩) before
    exact List.mem_append_right log List.mem_cons_self
  | @changeUnit id unitId record measured found =>
    exact Table.forall_get?_insert (before id record found) before
  | describeMaterial short found => exact Table.forall_get?_insert (.inl short) before
  | removeMaterial present => exact Table.forall_get?_erase before
  | @addProduct p =>
    obtain ⟨links, parts⟩ := exists_putParts_eq inv.nextId p.materials (inv.advance.putProduct
      inv.nextId { name := p.name, description := p.description })
    rw [parts]
    exact before
  -- no other change touches a description of a material
  | addUnit | renameUnit | removeUnit | renameMaterial | reviseProduct | setPart | removePart
  | removeProduct | addFile | choosePicture | removeFile => exact before

theorem DescriptionsTraced.step (traced : inv.DescriptionsTraced log) (change : Change) :
    (inv.step change).1.DescriptionsTraced (log ++ [⟨change, (inv.step change).2⟩]) := by
  rcases inv.step_cases change with ⟨outcome, inv', ended, effect⟩ | ⟨fault, ended⟩
  · rw [ended]
    exact traced.of_effect effect
  · rw [ended]
    exact traced.append _

theorem descriptionsTraced_run_empty (changes : List Change) :
    (empty.run changes).DescriptionsTraced (empty.history changes) := by
  induction changes using List.reverseRecOn with
  | nil =>
    intro id record found
    cases found
  | append_singleton changes change ih =>
    rw [history_append, run_append]
    exact ih.step change

/-! ## All texts -/

/-- **The texts that are kept keep the rules of their fields.**  Every material has names, and these
have 2 to 200 characters; the names of units and products are not blank; the descriptions of
products have at most 500 characters, and so have those of materials, unless the material came in
with a longer one. -/
theorem texts_keep_their_rules (changes : List Change) :
    let inv := empty.run changes
    (∀ id ∈ inv.materials.ids, inv.storedNames id ≠ [] ∧
      ∀ row ∈ inv.storedNames id, 2 ≤ row.name.length ∧ row.name.length ≤ 200) ∧
    (∀ id unit, inv.units.get? id = some unit → Text.isBlankText unit.name = false) ∧
    (∀ id product, inv.products.get? id = some product →
      Text.isBlankText product.name = false ∧ product.description.length ≤ 500) ∧
    (∀ id material, inv.materials.get? id = some material →
      material.description.length ≤ 500 ∨
        CameWith (empty.history changes) id material.description) := by
  intro inv
  have valid : inv.Valid := valid_empty.run changes
  refine ⟨?_, fun id unit found => (valid.unitName id unit found).1, ?_, ?_⟩
  · intro id present
    rw [← valid.named] at present
    obtain ⟨names, found⟩ := Table.mem_ids_iff.1 present
    obtain ⟨-, lengths⟩ := FieldCheck.names_eq_ok.1 (namesChecked_run_empty changes id names found)
    rw [storedNames, found]
    exact ⟨valid.nonempty id names found, fun row member =>
      FieldCheck.nameLength_eq_ok.1 (lengths row.name (List.mem_map_of_mem member))⟩
  · exact fun id product found =>
      checkProductFields_eq_ok.1 (productsChecked_run_empty changes id product found)
  · exact fun id material found =>
      (descriptionsTraced_run_empty changes id material found).imp_left
        FieldCheck.description_eq_ok.1

/-- A description of 501 characters. -/
def saga : String := String.ofList (List.replicate 501 'd')

/-- A material that comes in with this description. -/
def chronicle : List Change :=
  [.addUnit "kg",
    .addMaterial { Material.new 0 { id := 1, name := "kg" } with
      names := ["Steel"], primaryName := "Steel", description := saga }]

/-- It keeps the description, which it could not be given afterwards. -/
theorem newcomer_is_described_at_length :
    (empty.run chronicle).materials.get? 2 = some { unitId := 1, description := saga } ∧
      ¬ saga.length ≤ 500 ∧
      ((empty.run chronicle).step (.describeMaterial 2 saga)).2 = .error .descriptionTooLong := by
  have long : ¬ saga.length ≤ 500 := by
    have length : saga.length = 501 := String.length_ofList.trans List.length_replicate
    omega
  have refused : FieldCheck.description saga = .error .descriptionTooLong :=
    if_pos (Nat.lt_of_not_le long)
  have step : (empty.run chronicle).step (.describeMaterial 2 saga) =
      (empty.run chronicle, .error .descriptionTooLong) := step_of_checkValues_error refused
  exact ⟨by decide +kernel, long, congrArg Prod.snd step⟩

end Inventory

end PartsCatalog
