import PartsCatalog.Proofs.Inventory.Reachable

/-!
# Refused changes

A change that works on something that is not there, or refers to it, fails (`refused_of_missing`).
It says that something was not found, unless the values that it brings along are refused before
anything is looked for (`Change.checkValues`, `step_of_checkValues_error`).
-/

namespace PartsCatalog

open PartsCatalog.Action

/-- The identifier of an owner of files. -/
def Owner.id : Owner → EntityId
  | material id => id
  | product id => id

namespace Change

/-- The identifiers of what a change works on or refers to. -/
def subjects : Change → List EntityId
  | addUnit _ => []
  | renameUnit id _ | removeUnit id => [id]
  | addMaterial m => [m.unit.id]
  | renameMaterial id .. | describeMaterial id _ | removeMaterial id => [id]
  | changeUnit id unitId => [id, unitId]
  | addProduct p => p.materials.map (·.id)
  | reviseProduct id .. | removeProduct id => [id]
  | setPart productId materialId _ => [productId, materialId]
  | removePart productId _ => [productId]
  | addFile owner .. => [owner.id]
  | choosePicture owner fileId | removeFile owner fileId => [owner.id, fileId]

/-- What a change checks of the values that it brings along, before it looks for anything. -/
def checkValues (inv : Inventory) : Change → Except Fault Unit
  | addUnit name => (inv.checkUnitName (fun _ => true) name).map fun _ => ()
  | renameUnit id name => (inv.checkUnitName (· != id) name).map fun _ => ()
  | addMaterial m => FieldCheck.names m.names
  | describeMaterial _ description => FieldCheck.description description
  | addProduct p => Inventory.checkProductFields p.name p.description
  | reviseProduct _ name description => Inventory.checkProductFields name description
  | _ => .ok ()

end Change

namespace Inventory

variable {inv inv' : Inventory} {id fileId : EntityId} {owner : Owner} {fault : Fault}
  {change : Change} {outcome : Outcome}

/-! ## What is not found -/

theorem kind_of_unit (missed : inv.unit id = .error fault) : fault.kind = .notFound := by
  unfold Inventory.unit at missed
  cases found : inv.units.get? id <;> rw [found] at missed <;> cases missed
  rfl

theorem kind_of_storedMaterial (missed : inv.storedMaterial id = .error fault) :
    fault.kind = .notFound := by
  unfold storedMaterial at missed
  cases found : inv.materials.get? id <;> rw [found] at missed <;> cases missed
  rfl

theorem kind_of_storedProduct (missed : inv.storedProduct id = .error fault) :
    fault.kind = .notFound := by
  unfold storedProduct at missed
  cases found : inv.products.get? id <;> rw [found] at missed <;> cases missed
  rfl

theorem kind_of_checkOwner (missed : inv.checkOwner owner = .error fault) :
    fault.kind = .notFound := by
  cases owner with
  | material id =>
    cases read : inv.storedMaterial id <;> rw [checkOwner, read] at missed <;> cases missed
    exact kind_of_storedMaterial read
  | product id =>
    cases read : inv.storedProduct id <;> rw [checkOwner, read] at missed <;> cases missed
    exact kind_of_storedProduct read

theorem kind_of_attachmentsWith (missed : inv.attachmentsWith owner fileId = .error fault) :
    fault.kind = .notFound := by
  unfold attachmentsWith at missed
  split at missed
  · cases missed
    rfl
  · split at missed <;> cases missed
    rfl

theorem kind_of_checkMaterials {materials : List Material}
    (missed : inv.checkMaterials materials = .error fault) : fault.kind = .notFound := by
  unfold checkMaterials at missed
  induction materials with
  | nil => cases missed
  | cons m ms ih =>
    cases read : inv.storedMaterial m.id with
    | ok record =>
      rw [List.forM, read] at missed
      exact ih missed
    | error fault =>
      rw [List.forM, read] at missed
      cases missed
      exact kind_of_storedMaterial read

/-! ## What is in use -/

theorem HasOwner.mem_idsInUse (owned : inv.HasOwner owner) : owner.id ∈ inv.idsInUse := by
  cases owner with
  | material id => exact mem_idsInUse_of_materials owned
  | product id => exact mem_idsInUse_of_products owned

theorem mem_idsInUse_of_file {files : Attachments} {file : File}
    (found : inv.attachmentsOf? owner = some files) (inside : files.file? fileId = some file) :
    fileId ∈ inv.idsInUse := by
  obtain ⟨entry, atOwner, rfl⟩ := Option.map_eq_some_iff.1 found
  have listed : fileId ∈ entry.2.ids := by
    by_contra absent
    cases (Attachments.file?_eq_none_iff.2 absent).symm.trans inside
  have held : fileId ∈ inv.fileIds :=
    List.mem_flatMap.2 ⟨entry, List.mem_of_find?_eq_some atOwner, listed⟩
  simp [idsInUse, held]

/-- Where a change succeeds, all that it works on or refers to is there. -/
theorem subjects_of_effect (valid : inv.Valid) (effect : Effect inv change outcome inv')
    (subject : id ∈ change.subjects) : id ∈ inv.idsInUse := by
  cases effect with
  | addUnit => cases subject
  | renameUnit free found =>
    obtain rfl := List.mem_singleton.1 subject
    exact mem_idsInUse_of_units (Table.mem_ids_of_get? found)
  | removeUnit present =>
    obtain rfl := List.mem_singleton.1 subject
    exact mem_idsInUse_of_units present
  | addMaterial proper measured =>
    obtain rfl := List.mem_singleton.1 subject
    exact mem_idsInUse_of_units measured
  | renameMaterial found | describeMaterial short found =>
    obtain rfl := List.mem_singleton.1 subject
    exact mem_idsInUse_of_materials (Table.mem_ids_of_get? found)
  | removeMaterial present =>
    obtain rfl := List.mem_singleton.1 subject
    exact mem_idsInUse_of_materials present
  | changeUnit measured found =>
    rcases List.mem_pair.1 subject with rfl | rfl
    · exact mem_idsInUse_of_materials (Table.mem_ids_of_get? found)
    · exact mem_idsInUse_of_units measured
  | addProduct proper present =>
    obtain ⟨m, member, rfl⟩ := List.mem_map.1 subject
    exact mem_idsInUse_of_materials (present m member)
  | reviseProduct proper present =>
    obtain rfl := List.mem_singleton.1 subject
    exact mem_idsInUse_of_products present
  | removePart present | removeProduct present =>
    obtain rfl := List.mem_singleton.1 subject
    exact mem_idsInUse_of_products present
  | setPart product material =>
    rcases List.mem_pair.1 subject with rfl | rfl
    · exact mem_idsInUse_of_products product
    · exact mem_idsInUse_of_materials material
  | addFile owned =>
    obtain rfl := List.mem_singleton.1 subject
    exact owned.mem_idsInUse
  | choosePicture owned found inside =>
    rcases List.mem_pair.1 subject with rfl | rfl
    · exact owned.mem_idsInUse
    · exact mem_idsInUse_of_file found inside
  | removeFile found inside =>
    rcases List.mem_pair.1 subject with rfl | rfl
    · exact (valid.of_attachmentsOf? found).1.mem_idsInUse
    · exact mem_idsInUse_of_file found inside

/-! ## Refusals -/

/-- A change that misses something says so, or refuses its values before.  What a change could
still refuse once everything is found does not come into it, as something is not. -/
theorem failsWith_missing (missing : id ∉ inv.idsInUse) (subject : id ∈ change.subjects) :
    FailsWith (fun fault _ => fault.kind = .notFound ∨ change.checkValues inv = .error fault)
      change.perform inv := by
  cases change with
  | addUnit => cases subject
  | renameUnit =>
    refine .map (failsWith_consult_bind (fun fault refused => .inr ?_) fun _ _ =>
      failsWith_consult_bind (fun _ missed => .inl (kind_of_unit missed)) fun _ _ =>
        failsWith_of_ok rfl)
    rw [Change.checkValues, refused]
    rfl
  | removeUnit =>
    obtain rfl := List.mem_singleton.1 subject
    refine .map (failsWith_consult_bind (fun _ missed => .inl (kind_of_unit missed))
      fun _ found => absurd ?_ missing)
    exact mem_idsInUse_of_units (Table.mem_ids_of_get? (unit_eq_ok.1 found))
  | addMaterial =>
    exact .map (failsWith_consult_bind (fun _ refused => .inr refused) fun _ _ =>
      failsWith_consult_bind (fun _ missed => .inl (kind_of_unit missed)) fun _ _ =>
        failsWith_of_ok rfl)
  | renameMaterial =>
    obtain rfl := List.mem_singleton.1 subject
    refine .map (failsWith_consult_bind (fun _ missed => .inl (kind_of_storedMaterial missed))
      fun _ found => absurd ?_ missing)
    exact mem_idsInUse_of_materials (exists_storedMaterial.1 ⟨_, found⟩)
  | changeUnit =>
    exact .map (failsWith_consult_bind (fun _ missed => .inl (kind_of_unit missed)) fun _ _ =>
      failsWith_consult_bind (fun _ missed => .inl (kind_of_storedMaterial missed)) fun _ _ =>
        failsWith_of_ok rfl)
  | describeMaterial =>
    exact .map (failsWith_consult_bind (fun _ refused => .inr refused) fun _ _ =>
      failsWith_consult_bind (fun _ missed => .inl (kind_of_storedMaterial missed)) fun _ _ =>
        failsWith_of_ok rfl)
  | removeMaterial =>
    exact .map (failsWith_consult_bind (fun _ missed => .inl (kind_of_storedMaterial missed))
      fun _ _ => failsWith_of_ok rfl)
  | addProduct p =>
    refine .map (failsWith_consult_bind (fun _ refused => .inr refused) fun _ _ =>
      failsWith_consult_bind (fun _ missed => .inl (kind_of_checkMaterials missed))
        fun _ found => absurd ?_ missing)
    obtain ⟨m, member, rfl⟩ := List.mem_map.1 subject
    exact mem_idsInUse_of_materials (checkMaterials_eq_ok.1 found m member)
  | reviseProduct =>
    exact .map (failsWith_consult_bind (fun _ refused => .inr refused) fun _ _ =>
      failsWith_consult_bind (fun _ missed => .inl (kind_of_storedProduct missed)) fun _ _ =>
        failsWith_of_ok rfl)
  | setPart =>
    exact .map (failsWith_consult_bind (fun _ missed => .inl (kind_of_storedProduct missed))
      fun _ _ => failsWith_consult_bind (fun _ missed => .inl (kind_of_storedMaterial missed))
        fun _ _ => failsWith_of_ok rfl)
  | removePart | removeProduct =>
    exact .map (failsWith_consult_bind (fun _ missed => .inl (kind_of_storedProduct missed))
      fun _ _ => failsWith_of_ok rfl)
  | addFile =>
    obtain rfl := List.mem_singleton.1 subject
    refine .map (failsWith_consult_bind (fun _ missed => .inl (kind_of_checkOwner missed))
      fun _ owned => absurd ?_ missing)
    exact (checkOwner_eq_ok.1 owned).mem_idsInUse
  | choosePicture owner fileId =>
    refine .map (failsWith_consult_bind (fun _ missed => .inl (kind_of_checkOwner missed))
      fun _ owned => failsWith_consult_bind
        (fun _ missed => .inl (kind_of_attachmentsWith missed)) fun ⟨files, file⟩ there =>
          absurd ?_ missing)
    obtain ⟨found, inside⟩ := attachmentsWith_eq_ok.1 there
    rcases List.mem_pair.1 subject with rfl | rfl
    · exact (checkOwner_eq_ok.1 owned).mem_idsInUse
    · exact mem_idsInUse_of_file found inside
  | removeFile =>
    exact .map (failsWith_consult_bind (fun _ missed => .inl (kind_of_attachmentsWith missed))
      fun _ _ => failsWith_of_ok rfl)

theorem refused_of_missing (valid : inv.Valid) (missing : id ∉ inv.idsInUse)
    (subject : id ∈ change.subjects) :
    ∃ fault, inv.step change = (inv, .error fault) ∧
      (fault.kind = .notFound ∨ change.checkValues inv = .error fault) := by
  rcases inv.step_cases change with ⟨outcome, inv', -, effect⟩ | ⟨fault, ended⟩
  · exact absurd (subjects_of_effect valid effect subject) missing
  · refine ⟨fault, ended, failsWith_missing missing subject fault inv ?_⟩
    unfold step at ended
    split at ended <;> cases ended
    assumption

/-- Values that are refused are refused before anything else. -/
theorem step_of_checkValues_error (refused : change.checkValues inv = .error fault) :
    inv.step change = (inv, .error fault) := by
  have first {α β : Type} {look : Inventory → Except Fault α} {next : α → Action β}
      {f : β → Outcome} (missed : look inv = .error fault) :
      (f <$> (consult look >>= next)).run inv = .error fault inv := by
    have asBind : f <$> (consult look >>= next) =
        (consult look >>= next) >>= fun b => pure (f b) := map_eq_pure_bind f _
    rw [asBind, EStateM.run_bind, EStateM.run_bind, run_consult, missed]
  have fails (ended : change.perform.run inv = .error fault inv) :
      inv.step change = (inv, .error fault) := by
    rw [step, ended]
  cases change with
  | addUnit name =>
    cases checked : inv.checkUnitName (fun _ => true) name <;>
      rw [Change.checkValues, checked] at refused <;> cases refused
    exact fails (first checked)
  | renameUnit id name =>
    cases checked : inv.checkUnitName (· != id) name <;>
      rw [Change.checkValues, checked] at refused <;> cases refused
    exact fails (first checked)
  | addMaterial | describeMaterial | addProduct | reviseProduct => exact fails (first refused)
  | removeUnit | renameMaterial | changeUnit | removeMaterial | setPart | removePart
  | removeProduct | addFile | choosePicture | removeFile => cases refused

end Inventory

end PartsCatalog
