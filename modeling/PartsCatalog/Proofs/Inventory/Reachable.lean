import PartsCatalog.Proofs.Inventory.Preservation

/-!
# Every inventory is valid

The effect of a change meets the conditions of the updates it makes, so it keeps the inventory valid
(`Effect.valid`).  A step has the effect of its change or changes nothing, so whatever changes lead
to from the empty inventory is valid, whether they succeed or not (`valid_run_empty`).
-/

namespace PartsCatalog

namespace Inventory

variable {inv inv' : Inventory} {id : EntityId} {raw name : String}

/-! ## Units -/

/-- A name that passed the check is proper. -/
theorem unitName_of_checkUnitName {isOther : EntityId → Bool}
    (free : inv.checkUnitName isOther raw = .ok name) :
    Text.isBlankText name = false ∧ Text.Trimmed name := by
  obtain ⟨notBlank, rfl, -⟩ := checkUnitName_eq_ok.1 free
  exact ⟨by rw [Text.isBlankText_trim, notBlank], Text.trimmed_trim raw⟩

namespace Valid

theorem addUnit (valid : inv.Valid) (free : inv.checkUnitName (fun _ => true) raw = .ok name) :
    (inv.advance.putUnit inv.nextId { id := inv.nextId, name }).Valid := by
  refine valid.advance.putUnit rfl (unitName_of_checkUnitName free) ?_ (valid.ids.putUnit_nextId _)
  intro id' unit' found same
  obtain ⟨-, -, other⟩ := checkUnitName_eq_ok.1 free
  exact absurd same (other id' unit' found rfl)

theorem renameUnit (valid : inv.Valid) {unit : MeasureUnit}
    (free : inv.checkUnitName (· != id) raw = .ok name) (found : inv.units.get? id = some unit) :
    (inv.putUnit id { unit with name }).Valid := by
  refine valid.putUnit (valid.unitKey id unit found) (unitName_of_checkUnitName free) ?_
    (valid.ids.putUnit (Table.mem_ids_of_get? found))
  intro id' unit' found' same
  obtain ⟨-, -, other⟩ := checkUnitName_eq_ok.1 free
  -- a unit of the new name is not another one, and units stand under their own identifiers
  have notOther : ¬ (unit'.id != id) := fun isOther => other id' unit' found' isOther same
  rw [valid.unitKey id' unit' found'] at notOther
  simpa using notOther

/-! ## Names -/

theorem addMaterial (valid : inv.Valid) {m : Material} (proper : FieldCheck.names m.names = .ok ())
    (measured : m.unit.id ∈ inv.units.ids) :
    ((inv.advance.putMaterial inv.nextId
      { unitId := m.unit.id, description := m.description }).putNames inv.nextId
        (MarkedName.mark m.primaryName m.names)).Valid :=
  valid.advance.putNamedMaterial measured
    (MarkedName.mark_ne_nil (FieldCheck.ne_nil_of_names proper)) MarkedName.oneMarked_mark
    (valid.ids.putMaterial_nextId _ _)

theorem renameMaterial (valid : inv.Valid) {record : StoredMaterial} {m named : Material}
    {primaryName : String} {names : List String} (found : inv.materials.get? id = some record)
    (proper : m.setNames primaryName names = .ok named) :
    (inv.putNames id (MarkedName.mark named.primaryName named.names)).Valid :=
  valid.putNames (Table.mem_ids_of_get? found)
    (MarkedName.mark_ne_nil (Material.names_ne_nil_of_setNames proper)) MarkedName.oneMarked_mark

end Valid

/-! ## Steps and runs -/

/-- Every change keeps a valid inventory valid. -/
theorem Valid.of_effect {change : Change} {outcome : Outcome} (valid : inv.Valid)
    (effect : Effect inv change outcome inv') : inv'.Valid := by
  cases effect with
  | addUnit free => exact valid.addUnit free
  | renameUnit free found => exact valid.renameUnit free found
  | removeUnit present unused => exact valid.dropUnit unused
  | addMaterial proper measured => exact valid.addMaterial proper measured
  | renameMaterial found proper => exact valid.renameMaterial found proper
  | changeUnit measured found => exact valid.putMaterial (Table.mem_ids_of_get? found) measured
  | describeMaterial short found =>
    have measured := valid.measured _ _ found
    exact valid.putMaterial (Table.mem_ids_of_get? found) measured
  | removeMaterial present => exact valid.dropMaterial _
  | addProduct proper present =>
    exact (valid.advance.putProduct (valid.ids.putProduct_nextId _)).putParts
      (Table.mem_ids_insert.2 (.inl rfl)) present
  | reviseProduct proper present => exact valid.putProduct (valid.ids.putProduct present)
  | setPart product material => exact valid.putLink_ofInput product material _
  | removePart product => exact valid.dropLink _
  | removeProduct present => exact valid.dropProduct _
  | @addFile owner _ _ _ _ owned allowed =>
    refine valid.advance.putAttachments owned ?_ (valid.ids.attach_nextId rfl)
    rw [Attachments.owner_attach]
    cases found : inv.attachmentsOf? owner with
    | none => rfl
    | some files => exact (valid.of_attachmentsOf? found).2
  | choosePicture owned found inside image chosen_eq =>
    have sameIds := Attachments.ids_choosePicture chosen_eq
    refine valid.putAttachments owned ?_ (valid.ids.putAttachments found (sameIds ▸ .refl _))
    rw [Attachments.choosePicture_eq_ok chosen_eq]
    exact (valid.of_attachmentsOf? found).2
  | removeFile found inside =>
    obtain ⟨owned, sameOwner⟩ := valid.of_attachmentsOf? found
    exact valid.putAttachments owned sameOwner
      (valid.ids.putAttachments found (Attachments.ids_detach_sublist _ _))

theorem Valid.step (valid : inv.Valid) (change : Change) : (inv.step change).1.Valid :=
  step_invariant Valid.of_effect valid change

theorem Valid.run (valid : inv.Valid) (changes : List Change) : (inv.run changes).Valid :=
  run_invariant Valid.of_effect valid changes

/-! ## The counter -/

/-- A change gives out the next identifier or none, and the counter says so. -/
theorem given_of_effect {change : Change} {outcome : Outcome}
    (effect : Effect inv change outcome inv') :
    outcome.given = [] ∧ inv'.lastId = inv.lastId ∨
      outcome.given = [inv.nextId] ∧ inv'.lastId = inv.nextId := by
  cases effect with
  | addUnit | addMaterial | addFile => exact .inr ⟨rfl, rfl⟩
  | @addProduct p =>
    obtain ⟨links, parts⟩ := exists_putParts_eq inv.nextId p.materials (inv.advance.putProduct
      inv.nextId { name := p.name, description := p.description })
    rw [parts]
    exact .inr ⟨rfl, rfl⟩
  | renameUnit | removeUnit | renameMaterial | changeUnit | describeMaterial | removeMaterial
  | reviseProduct | setPart | removePart | removeProduct | choosePicture | removeFile =>
    exact .inl ⟨rfl, rfl⟩

/-- A change gives out one identifier at most. -/
theorem lastId_of_effect {change : Change} {outcome : Outcome}
    (effect : Effect inv change outcome inv') : inv'.lastId ≤ inv.lastId + 1 := by
  rcases given_of_effect effect with ⟨-, same⟩ | ⟨-, next⟩
  · exact same ▸ Int.le_of_lt (Int.lt_succ _)
  · exact Int.le_of_eq next

theorem lastId_step (inv : Inventory) (change : Change) :
    (inv.step change).1.lastId ≤ inv.lastId + 1 := by
  rcases inv.step_cases change with ⟨outcome, inv', ended, effect⟩ | ⟨fault, ended⟩
  · rw [ended]
    exact lastId_of_effect effect
  · rw [ended]
    exact Int.le_of_lt (Int.lt_succ _)

theorem lastId_run (changes : List Change) (inv : Inventory) :
    (inv.run changes).lastId ≤ inv.lastId + changes.length := by
  induction changes generalizing inv with
  | nil => exact Int.le_of_eq (Int.add_zero _).symm
  | cons change changes ih =>
    calc ((inv.step change).1.run changes).lastId
        ≤ (inv.step change).1.lastId + changes.length := ih _
      _ ≤ inv.lastId + 1 + changes.length := Int.add_le_add_right (inv.lastId_step change) _
      _ = inv.lastId + (change :: changes).length := by
        rw [List.length_cons, Int.natCast_add, Int.add_assoc, Int.add_comm 1, Int.natCast_one]

/-! ## The invariant -/

/-- **Whatever changes are made to the empty inventory, it stays valid**, also where some of them
fail.  Its identifiers are no larger than the number of changes, so they have 64 bits for longer
than anybody can go on. -/
theorem valid_run_empty (changes : List Change) :
    (empty.run changes).Valid ∧ (empty.run changes).lastId ≤ changes.length :=
  ⟨valid_empty.run changes, (Int.zero_add (changes.length : Int)) ▸ lastId_run changes empty⟩

end Inventory

end PartsCatalog
