import PartsCatalog.Proofs.Inventory.History
import PartsCatalog.Proofs.Inventory.Reachable

/-!
# Identifiers in use

What a change takes out of use and what it leaves in use is, together, what was in use before and
what the change gave out (`idsInUse_perm`).  As the counter only gives out what stands above all
that was given out before, an identifier that a change took is out of use for good (`Retired`), and
the identifiers that a run gives out are consecutive numbers (`given_run`).
-/

namespace PartsCatalog

/-- The identifiers that an event gave out. -/
def Event.given (event : Event) : List EntityId :=
  match event.answer with
  | .ok outcome => outcome.given
  | .error _ => []

/-- The identifier of an entry. -/
def Entry.id : Entry → EntityId
  | unit id | material id | product id => id

namespace Inventory

variable {inv inv' : Inventory} {id : EntityId} {change : Change} {outcome : Outcome}

/-- The files of an owner, which are none if it never had one. -/
def filesOf (inv : Inventory) (owner : Owner) : Attachments :=
  (inv.attachmentsOf? owner).getD (.empty owner)

/-- The identifiers of the files of an owner. -/
def fileIdsOf (inv : Inventory) (owner : Owner) : List EntityId := (inv.filesOf owner).ids

/-- The identifiers that a change takes out of use if it succeeds: what it removes, and with a
material or a product all its files. -/
def taken (inv : Inventory) : Change → List EntityId
  | .removeUnit id => [id]
  | .removeMaterial id => id :: inv.fileIdsOf (.material id)
  | .removeProduct id => id :: inv.fileIdsOf (.product id)
  | .removeFile _ fileId => [fileId]
  | _ => []

/-! ## Removals -/

/-- The files of all owners are those of one and those of the others. -/
theorem fileIds_perm (valid : inv.Valid) (owner : Owner) :
    inv.fileIds.Perm (inv.fileIdsOf owner ++
      (inv.attachments.filter (·.1 != owner)).flatMap (·.2.ids)) := by
  have own : inv.fileIdsOf owner =
      (inv.attachments.filter (·.1 == owner)).flatMap (·.2.ids) := by
    rw [filter_key_eq_toList valid.ownedOnce, fileIdsOf, filesOf, attachmentsOf?]
    cases inv.attachments.find? (·.1 == owner) <;> simp
  rw [own, ← List.flatMap_append]
  exact (List.filter_append_perm (·.1 == owner) inv.attachments).symm.flatMap_right _

theorem perm_dropUnit (present : id ∈ inv.units.ids) :
    (id :: (inv.dropUnit id).idsInUse).Perm inv.idsInUse :=
  ((((Table.ids_erase_perm present).append_right _).append_right _).append_right _).symm

theorem perm_dropMaterial (valid : inv.Valid) (present : id ∈ inv.materials.ids) :
    (id :: inv.fileIdsOf (.material id) ++ (inv.dropMaterial id).idsInUse).Perm inv.idsInUse := by
  refine List.perm_iff_count.2 fun k => ?_
  have materials := (Table.ids_erase_perm present).count_eq k
  have files := (fileIds_perm valid (.material id)).count_eq k
  simp only [idsInUse, dropMaterial, fileIds, List.cons_append, List.count_cons,
    List.count_append] at materials files ⊢
  omega

theorem perm_dropProduct (valid : inv.Valid) (present : id ∈ inv.products.ids) :
    (id :: inv.fileIdsOf (.product id) ++ (inv.dropProduct id).idsInUse).Perm inv.idsInUse := by
  refine List.perm_iff_count.2 fun k => ?_
  have products := (Table.ids_erase_perm present).count_eq k
  have files := (fileIds_perm valid (.product id)).count_eq k
  simp only [idsInUse, dropProduct, fileIds, List.cons_append, List.count_cons,
    List.count_append] at products files ⊢
  omega

/-- Where files are set, what comes and goes are files of their owner. -/
theorem perm_putAttachments {owner : Owner} {files kept : Attachments} {gone : List EntityId}
    (found : inv.attachmentsOf? owner = some files) (split : files.ids.Perm (gone ++ kept.ids)) :
    (gone ++ (inv.putAttachments owner kept).idsInUse).Perm inv.idsInUse := by
  obtain ⟨before, after, listed, set⟩ := fileIds_putAttachments inv owner
  rw [found, Option.getD_some] at listed
  refine List.perm_iff_count.2 fun k => ?_
  have files := split.count_eq k
  simp only [idsInUse, listed, set, List.count_append] at files ⊢
  simp only [putAttachments]
  omega

/-! ## Changes -/

/-- What a change took and what it left in use are what was in use before and what it gave out. -/
theorem idsInUse_perm (valid : inv.Valid) (effect : Effect inv change outcome inv') :
    (inv.taken change ++ inv'.idsInUse).Perm (outcome.given ++ inv.idsInUse) := by
  cases effect with
  | addUnit free => exact valid.ids.perm_putUnit _
  | addMaterial proper measured => exact valid.ids.perm_putMaterial _ _
  | @addProduct p =>
    obtain ⟨links, parts⟩ := exists_putParts_eq inv.nextId p.materials (inv.advance.putProduct
      inv.nextId { name := p.name, description := p.description })
    rw [parts]
    exact valid.ids.perm_putProduct _
  | addFile owned allowed => exact valid.ids.perm_attach rfl
  | removeUnit present unused => exact perm_dropUnit present
  | removeMaterial present => exact perm_dropMaterial valid present
  | removeProduct present => exact perm_dropProduct valid present
  | removeFile found inside =>
    exact perm_putAttachments found (Attachments.ids_perm_detach inside)
  | choosePicture owned found inside image chosen_eq =>
    have sameIds := Attachments.ids_choosePicture chosen_eq
    exact perm_putAttachments found (.of_eq sameIds.symm)
  -- what is set in its place stays in use
  | renameUnit free found =>
    exact .of_eq (idsInUse_putUnit (Table.mem_ids_of_get? found))
  | changeUnit measured found | describeMaterial short found =>
    exact .of_eq (idsInUse_putMaterial (Table.mem_ids_of_get? found))
  | reviseProduct proper present => exact .of_eq (idsInUse_putProduct present)
  | renameMaterial | setPart | removePart => exact .refl _

/-! ## Out of use for good -/

/-- An identifier was given out and is not in use any more. -/
structure Retired (inv : Inventory) (id : EntityId) : Prop where
  given : id ≤ inv.lastId
  unused : id ∉ inv.idsInUse

theorem lastId_le_of_effect (effect : Effect inv change outcome inv') :
    inv.lastId ≤ inv'.lastId := by
  rcases given_of_effect effect with ⟨-, same⟩ | ⟨-, next⟩
  · exact Int.le_of_eq same.symm
  · exact next ▸ Int.le_of_lt (Int.lt_succ _)

/-- What is in use after a change was in use before, or stands above all that was given out. -/
theorem mem_idsInUse_of_effect (valid : inv.Valid) (effect : Effect inv change outcome inv')
    (member : id ∈ inv'.idsInUse) : id ∈ inv.idsInUse ∨ id = inv.nextId := by
  have listed : id ∈ outcome.given ++ inv.idsInUse :=
    (idsInUse_perm valid effect).mem_iff.1 (List.mem_append_right _ member)
  rcases given_of_effect effect with ⟨none, -⟩ | ⟨next, -⟩
  · rw [none] at listed
    exact .inl listed
  · rw [next] at listed
    exact (List.mem_cons.1 listed).symm

theorem Retired.of_effect (retired : inv.Retired id) (valid : inv.Valid)
    (effect : Effect inv change outcome inv') : inv'.Retired id where
  given := Int.le_trans retired.given (lastId_le_of_effect effect)
  unused := by
    intro member
    rcases mem_idsInUse_of_effect valid effect member with used | rfl
    · exact retired.unused used
    · exact Int.lt_irrefl _ (Int.lt_of_le_of_lt retired.given (Int.lt_succ _))

theorem Retired.step (retired : inv.Retired id) (valid : inv.Valid) (change : Change) :
    (inv.step change).1.Retired id := by
  rcases inv.step_cases change with ⟨outcome, inv', ended, effect⟩ | ⟨fault, ended⟩
  · rw [ended]
    exact retired.of_effect valid effect
  · rw [ended]
    exact retired

theorem Retired.run (retired : inv.Retired id) (valid : inv.Valid) (changes : List Change) :
    (inv.run changes).Retired id := by
  induction changes generalizing inv with
  | nil => exact retired
  | cons change changes ih => exact ih (retired.step valid change) (valid.step change)

/-- What a change took is retired: identifiers are different, so it is not left in use as well. -/
theorem retired_of_taken (valid : inv.Valid) (effect : Effect inv change outcome inv')
    (taken : id ∈ inv.taken change) : inv'.Retired id := by
  have balance := idsInUse_perm valid effect
  have listed : id ∈ outcome.given ++ inv.idsInUse :=
    balance.mem_iff.1 (List.mem_append_left _ taken)
  have distinct : (inv.taken change ++ inv'.idsInUse).Nodup := by
    rw [balance.nodup_iff]
    rcases given_of_effect effect with ⟨none, -⟩ | ⟨next, -⟩
    · rw [none]
      exact valid.ids.distinct
    · rw [next]
      exact List.nodup_cons.2 ⟨valid.ids.nextId_not_mem, valid.ids.distinct⟩
  refine ⟨?_, fun left => (List.nodup_append.1 distinct).2.2 id taken id left rfl⟩
  rcases given_of_effect effect with ⟨none, same⟩ | ⟨next, last⟩
  · rw [none] at listed
    exact same ▸ (valid.ids.given id listed).2
  · rw [last]
    rw [next] at listed
    rcases List.mem_cons.1 listed with rfl | used
    · exact Int.le_refl _
    · exact Int.le_of_lt (valid.ids.lt_nextId used)

/-! ### Entries -/

theorem Holds.mem_idsInUse {entry : Entry} (held : inv.Holds entry) :
    entry.id ∈ inv.idsInUse := by
  cases entry with
  | unit id => exact mem_idsInUse_of_units held
  | material id => exact mem_idsInUse_of_materials held
  | product id => exact mem_idsInUse_of_products held

theorem taken_of_removed {entry : Entry}
    (removed : (Event.mk change (.ok outcome)).removed? = some entry) :
    entry.id ∈ inv.taken change := by
  cases change <;> cases removed <;> exact List.mem_cons_self

/-- What is there after a run was never removed during the run. -/
theorem Holds.never_removed {entry : Entry} {changes : List Change} (valid : inv.Valid)
    (held : (inv.run changes).Holds entry) :
    ∀ event ∈ inv.history changes, event.removed? ≠ some entry := by
  intro event member removed
  obtain ⟨before, change, after, rfl, rfl⟩ := exists_split_of_mem_history member
  rcases (inv.run before).step_cases change with ⟨outcome, inv', ended, effect⟩ | ⟨fault, ended⟩
  · have validBefore := valid.run before
    rw [ended] at removed
    have retired := retired_of_taken validBefore effect (taken_of_removed removed)
    have retired' := retired.run (validBefore.of_effect effect) after
    rw [run_append] at held
    have after_eq : ((inv.run before).run (change :: after)) = inv'.run after := by
      rw [run, List.foldl_cons, ended]
      rfl
    exact retired'.unused (after_eq ▸ held).mem_idsInUse
  · rw [ended] at removed
    cases change <;> cases removed

/-! ## What a run gives out -/

/-- The numbers above another one, in order. -/
def numbersAbove (start : Int) (count : Nat) : List Int :=
  (List.range count).map fun k : Nat => start + 1 + (k : Int)

theorem numbersAbove_succ (start : Int) (count : Nat) :
    numbersAbove start (count + 1) = (start + 1) :: numbersAbove (start + 1) count := by
  rw [numbersAbove, numbersAbove, List.range_succ_eq_map, List.map_cons, List.map_map]
  refine congrArg₂ _ (Int.add_zero _) (List.map_congr_left fun k _ => ?_)
  simp only [Function.comp_apply, Nat.succ_eq_add_one, Int.natCast_add, Int.natCast_one]
  omega

theorem pairwise_numbersAbove (start : Int) (count : Nat) :
    (numbersAbove start count).Pairwise (· < ·) := by
  refine List.pairwise_map.2 (List.pairwise_lt_range.imp fun below => ?_)
  omega

theorem given_step (inv : Inventory) (change : Change) :
    let given := (Event.mk change (inv.step change).2).given
    given = [] ∧ (inv.step change).1.lastId = inv.lastId ∨
      given = [inv.nextId] ∧ (inv.step change).1.lastId = inv.nextId := by
  rcases inv.step_cases change with ⟨outcome, inv', ended, effect⟩ | ⟨fault, ended⟩
  · rw [ended]
    exact given_of_effect effect
  · rw [ended]
    exact .inl ⟨rfl, rfl⟩

/-- A run gives out the numbers above the last one, without a gap. -/
theorem given_run (changes : List Change) (inv : Inventory) :
    ∃ count, (inv.history changes).flatMap Event.given = numbersAbove inv.lastId count := by
  induction changes generalizing inv with
  | nil => exact ⟨0, rfl⟩
  | cons change changes ih =>
    obtain ⟨count, rest⟩ := ih (inv.step change).1
    rw [history, List.flatMap_cons, rest]
    rcases given_step inv change with ⟨none, same⟩ | ⟨next, last⟩
    · exact ⟨count, by rw [none, same, List.nil_append]⟩
    · exact ⟨count + 1, by rw [next, last, numbersAbove_succ, List.singleton_append, nextId]⟩

end Inventory

end PartsCatalog
