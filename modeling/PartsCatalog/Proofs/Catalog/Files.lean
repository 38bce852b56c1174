import PartsCatalog.Proofs.Catalog.Reads
import PartsCatalog.Proofs.Inventory.Identifiers
import PartsCatalog.Proofs.Uploads

/-!
# Files

The files that are read of an owner are what the answers given during the run tell
(`files_match_history`): every file that was attached to it and not removed since, in the order of
upload, and the picture that was chosen last.  Nothing that is done to another owner or to anything
else in the catalog comes into it.
-/

namespace PartsCatalog

/-- The owner on whose files a change works. -/
def Change.fileOwner? : Change → Option Owner
  | addFile owner .. | choosePicture owner _ | removeFile owner _ => some owner
  | _ => none

/-- What an event did to the files of an owner. -/
def Event.fileEvent? (owner : Owner) : Event → Option FileEvent
  | ⟨.addFile owner' name path mediaType _, .ok (.added id)⟩ =>
    if owner' = owner then some (.added (.new id name path mediaType)) else none
  | ⟨.choosePicture owner' id, .ok _⟩ => if owner' = owner then some (.chosen id) else none
  | ⟨.removeFile owner' id, .ok _⟩ => if owner' = owner then some (.removed id) else none
  | _ => none

/-- What happened to the files of an owner. -/
def fileEvents (owner : Owner) (log : List Event) : List FileEvent :=
  log.filterMap (Event.fileEvent? owner)

theorem fileEvents_concat (owner : Owner) (log : List Event) (event : Event) :
    fileEvents owner (log ++ [event]) =
      fileEvents owner log ++ (event.fileEvent? owner).toList := by
  rw [fileEvents, List.filterMap_append, List.filterMap_cons]
  cases event.fileEvent? owner <;> rfl

theorem Event.fileEvent?_of_other {owner : Owner} {event : Event}
    (other : event.change.fileOwner? ≠ some owner) : event.fileEvent? owner = none := by
  have differs {owner' : Owner} (same : event.change.fileOwner? = some owner') :
      owner' ≠ owner := fun equal => other (equal ▸ same)
  unfold fileEvent?
  split
  · exact if_neg (differs rfl)
  · exact if_neg (differs rfl)
  · exact if_neg (differs rfl)
  · rfl

namespace Inventory

variable {inv inv' : Inventory} {owner : Owner} {change : Change} {outcome : Outcome}
  {log : List FileEvent}

/-! ## Steps -/

theorem filesOf_putAttachments (inv : Inventory) (owner owner' : Owner) (files : Attachments) :
    (inv.putAttachments owner files).filesOf owner' =
      if owner' = owner then files else inv.filesOf owner' := by
  have found : (inv.putAttachments owner files).attachments.find? (·.1 == owner') =
      if owner' == owner then some (owner, files)
      else inv.attachments.find? (·.1 == owner') := find?_updateOrAppend_const rfl
  rw [filesOf, attachmentsOf?, found]
  by_cases same : owner' = owner
  · simp [same]
  · simp [same, filesOf, attachmentsOf?]

theorem filesOf_eq {files : Attachments} (found : inv.attachmentsOf? owner = some files) :
    inv.filesOf owner = files := by
  rw [filesOf, found, Option.getD_some]

/-- A change that is not about the files of an owner leaves them as they are, unless it removes the
owner. -/
theorem filesOf_of_effect (effect : Effect inv change outcome inv')
    (other : change.fileOwner? ≠ some owner)
    (stays : (Event.mk change (.ok outcome)).removed? ≠ some owner.entry) :
    inv'.filesOf owner = inv.filesOf owner := by
  cases effect with
  | addFile =>
    rw [filesOf_putAttachments, if_neg fun same => other (congrArg some same.symm)]
    rfl
  | choosePicture | removeFile =>
    rw [filesOf_putAttachments, if_neg fun same => other (congrArg some same.symm)]
  | removeMaterial =>
    have differs : owner ≠ .material _ := fun same => stays (same ▸ rfl)
    rw [filesOf, attachmentsOf?, dropMaterial, find?_filter_key_ne differs]
    rfl
  | removeProduct =>
    have differs : owner ≠ .product _ := fun same => stays (same ▸ rfl)
    rw [filesOf, attachmentsOf?, dropProduct, find?_filter_key_ne differs]
    rfl
  | @addProduct p =>
    obtain ⟨links, parts⟩ := exists_putParts_eq inv.nextId p.materials (inv.advance.putProduct
      inv.nextId { name := p.name, description := p.description })
    rw [parts]
    rfl
  | addUnit | renameUnit | removeUnit | addMaterial | renameMaterial | changeUnit
  | describeMaterial | reviseProduct | setPart | removePart => rfl

theorem filesOf_step (other : change.fileOwner? ≠ some owner)
    (stays : (Event.mk change (inv.step change).2).removed? ≠ some owner.entry) :
    (inv.step change).1.filesOf owner = inv.filesOf owner := by
  rcases inv.step_cases change with ⟨outcome, inv', ended, effect⟩ | ⟨fault, ended⟩
  · rw [ended] at stays ⊢
    exact filesOf_of_effect effect other stays
  · rw [ended]

/-- The files of an owner that is not removed match the log with the event of the change. -/
theorem matches_of_effect (valid : inv.Valid) (effect : Effect inv change outcome inv')
    (stays : (Event.mk change (.ok outcome)).removed? ≠ some owner.entry)
    (matched : (inv.filesOf owner).Matches log) :
    (inv'.filesOf owner).Matches
      (log ++ ((Event.mk change (.ok outcome)).fileEvent? owner).toList) := by
  by_cases about : change.fileOwner? = some owner
  · cases effect with
    | addFile owned allowed =>
      obtain rfl := Option.some.inj about
      rw [filesOf_putAttachments, if_pos rfl, Event.fileEvent?, if_pos rfl]
      exact matched.attach (valid.ids.not_mem_files_nextId _)
        (MediaType.isAllowed_of_checkUpload allowed) rfl rfl
    | choosePicture owned found inside image chosen_eq =>
      obtain rfl := Option.some.inj about
      rw [filesOf_putAttachments, if_pos rfl, Event.fileEvent?, if_pos rfl]
      rw [filesOf_eq found] at matched
      exact matched.choosePicture inside image chosen_eq
    | removeFile found inside =>
      obtain rfl := Option.some.inj about
      rw [filesOf_putAttachments, if_pos rfl, Event.fileEvent?, if_pos rfl]
      rw [filesOf_eq found] at matched
      exact matched.detach _
    | _ => cases about
  · rw [filesOf_of_effect effect about stays, Event.fileEvent?_of_other about, Option.toList_none,
      List.append_nil]
    exact matched

theorem matches_step (valid : inv.Valid) (change : Change)
    (stays : (Event.mk change (inv.step change).2).removed? ≠ some owner.entry)
    (matched : (inv.filesOf owner).Matches log) :
    ((inv.step change).1.filesOf owner).Matches
      (log ++ ((Event.mk change (inv.step change).2).fileEvent? owner).toList) := by
  rcases inv.step_cases change with ⟨outcome, inv', ended, effect⟩ | ⟨fault, ended⟩
  · rw [ended] at stays ⊢
    exact matches_of_effect valid effect stays matched
  · have silent : (Event.mk change (.error fault)).fileEvent? owner = none := by
      cases change <;> rfl
    rw [ended, silent, Option.toList_none, List.append_nil]
    exact matched

/-! ## Runs -/

theorem matches_run (changes : List Change)
    (stays : ∀ event ∈ empty.history changes, event.removed? ≠ some owner.entry) :
    ((empty.run changes).filesOf owner).Matches (fileEvents owner (empty.history changes)) := by
  induction changes using List.reverseRecOn with
  | nil => exact .empty owner
  | append_singleton changes change ih =>
    rw [history_append, List.forall_mem_append] at stays
    rw [history_append, run_append]
    simp only [history, fileEvents_concat]
    exact matches_step (valid_empty.run changes) change (stays.2 _ List.mem_cons_self) (ih stays.1)

theorem files_eq_ok (held : inv.Holds owner.entry) :
    inv.files owner = .ok (inv.filesOf owner) := by
  have owned : inv.checkOwner owner = .ok () := by
    refine checkOwner_eq_ok.2 ?_
    cases owner <;> exact held
  rw [files, owned]
  rfl

/-- **The files of an owner are what was uploaded**, after any run of changes and for every owner
that is there.  They are the files that were attached to it and not removed since, in the order of
upload; all are of a media type that may be uploaded and of the kind that follows from it.  The
profile picture is the one that was chosen last, unless it was removed since; no other file is
marked, and what is marked is an image.  A change to the files of another owner, even one that names
a file of this owner, leaves the files as they are, and so does every other change but the removal
of the owner itself. -/
theorem files_match_history (changes : List Change) (owner : Owner)
    (kept : Kept (empty.history changes) owner.entry) :
    let inv := empty.run changes
    let log := fileEvents owner (empty.history changes)
    ∃ files, inv.files owner = .ok files ∧
      files.files.map (·.marked false) = standing log ∧
      (∀ file ∈ files.files,
        MediaType.isAllowed file.mediaType ∧ file.kind = .ofMediaType file.mediaType) ∧
      (∀ id, files.profilePicture?.map File.id = some id ↔ IsPicture log id) ∧
      files.files.filter (·.isProfilePicture) = files.profilePicture?.toList ∧
      (∀ file ∈ files.files, file.isProfilePicture → file.isImage) ∧
      ∀ change, change.fileOwner? ≠ some owner →
        (Event.mk change (inv.step change).2).removed? ≠ some owner.entry →
        (inv.step change).1.files owner = .ok files := by
  intro inv log
  have held : inv.Holds owner.entry := (holds_run_empty changes owner.entry).2 kept
  have matched : (inv.filesOf owner).Matches log :=
    matches_run changes (held.never_removed valid_empty)
  refine ⟨inv.filesOf owner, files_eq_ok held, matched.listed, matched.proper,
    fun _ => matched.id_profilePicture?_iff, matched.filter_isProfilePicture,
    fun _ => matched.isImage_of_isProfilePicture, ?_⟩
  intro change other stays
  have held' : (inv.step change).1.Holds owner.entry :=
    (inv.holds_step change owner.entry).2 (.inr ⟨held, stays⟩)
  rw [files_eq_ok held', filesOf_step other stays]

/-- A bicycle with two photographs and a manual.  The photograph from the front is chosen, then the
one from the side, and the former is removed; the manual cannot be chosen, and the wheel cannot
remove what the bicycle has. -/
def bicycle : List Change :=
  let owner : Owner := .product 1
  [.addProduct (.new 0 "Bicycle"), .addProduct (.new 0 "Wheel"),
    .addFile owner "side.jpg" "1.jpg" "image/jpeg" 10,
    .addFile owner "manual.pdf" "2.pdf" "application/pdf" 10,
    .addFile owner "front.jpg" "3.jpg" "image/jpeg" 10,
    .choosePicture owner 5, .choosePicture owner 3, .choosePicture owner 4,
    .removeFile (.product 2) 3, .removeFile owner 5]

theorem bicycle_has_two_files :
    Kept (empty.history bicycle) (.product 1) ∧
      ∃ files, (empty.run bicycle).files (.product 1) = .ok files ∧
        files.files.map (·.marked false) =
          [.new 3 "side.jpg" "1.jpg" "image/jpeg", .new 4 "manual.pdf" "2.pdf" "application/pdf"] ∧
        files.profilePicture?.map File.id = some 3 := by
  have present : (1 : EntityId) ∈ (empty.run bicycle).products.ids := by decide +kernel
  have kept : Kept (empty.history bicycle) (.product 1) :=
    (holds_run_empty bicycle (.product 1)).1 present
  have events : fileEvents (.product 1) (empty.history bicycle) =
      [.added (.new 3 "side.jpg" "1.jpg" "image/jpeg"),
        .added (.new 4 "manual.pdf" "2.pdf" "application/pdf"),
        .added (.new 5 "front.jpg" "3.jpg" "image/jpeg"), .chosen 5, .chosen 3, .removed 5] := by
    decide +kernel
  obtain ⟨files, read, listed, -, picture, -⟩ := files_match_history bicycle (.product 1) kept
  rw [events] at listed picture
  refine ⟨kept, files, read, listed.trans (by decide +kernel), (picture 3).2 ?_⟩
  exact ⟨[_, _, _, _], .chosen 3, [.removed 5], rfl, rfl, by simp⟩

end Inventory

end PartsCatalog
