import Mathlib.Data.List.Find
import Mathlib.Data.List.Induction
import PartsCatalog.Proofs.Attachment
import PartsCatalog.Proofs.Since

/-!
# What happened to files

The files of an owner, told from what happened to them: those that were added and not removed since
(`standing`), with the one marked that was chosen last, unless it was removed since (`IsPicture`).
`Attachments.Matches` says that attachments are what a log tells, and each operation on attachments
keeps it when its event comes to the log.
-/

namespace PartsCatalog

theorem MediaType.isAllowed_of_checkUpload {mediaType : String} {bytes : Nat}
    (allowed : checkUpload mediaType bytes = .ok ()) : isAllowed mediaType := by
  unfold checkUpload at allowed
  split at allowed
  · cases allowed
  · split at allowed
    · assumption
    · cases allowed

/-- What can happen to the files of an owner. -/
inductive FileEvent where
  | added (file : File)
  | chosen (id : EntityId)
  | removed (id : EntityId)
deriving DecidableEq

/-- The files that were added and not removed since, in the order in which they were added. -/
def standing : List FileEvent → List File
  | [] => []
  | .added file :: log =>
    if .removed file.id ∈ log then standing log else file :: standing log
  | .chosen _ :: log | .removed _ :: log => standing log

/-- A file was chosen, and since then no other was and the file was not removed. -/
def IsPicture (log : List FileEvent) (id : EntityId) : Prop :=
  Since (· = .chosen id) (fun later => later ≠ .removed id ∧ ∀ other, later ≠ .chosen other) log

variable {log : List FileEvent} {file : File} {id other : EntityId}

/-! ## A log with one more event -/

theorem standing_added :
    standing (log ++ [.added file]) = standing log ++ [file] := by
  induction log with
  | nil => rfl
  | cons event log ih =>
    cases event <;> simp [standing, ih]
    split <;> rfl

theorem standing_chosen : standing (log ++ [.chosen id]) = standing log := by
  induction log with
  | nil => rfl
  | cons event log ih => cases event <;> simp [standing, ih]

theorem standing_removed :
    standing (log ++ [.removed id]) = (standing log).filter (·.id != id) := by
  induction log with
  | nil => rfl
  | cons event log ih =>
    cases event with
    | added file =>
      by_cases later : .removed file.id ∈ log
      · simp [standing, ih, later]
      · by_cases here : file.id = id
        · subst here
          simp [standing, ih, later]
        · simp [standing, ih, later, here]
    | chosen | removed => simp [standing, ih]

theorem isPicture_added : IsPicture (log ++ [.added file]) id ↔ IsPicture log id := by
  simp [IsPicture, since_concat]

theorem isPicture_chosen : IsPicture (log ++ [.chosen other]) id ↔ id = other := by
  simp [IsPicture, since_concat, eq_comm]

theorem isPicture_removed :
    IsPicture (log ++ [.removed other]) id ↔ IsPicture log id ∧ id ≠ other := by
  simp [IsPicture, since_concat, eq_comm]

/-- There is at most one picture. -/
theorem IsPicture.unique (picture : IsPicture log id) (picture' : IsPicture log other) :
    id = other := by
  induction log using List.reverseRecOn with
  | nil => exact (not_since_nil picture).elim
  | append_singleton log event ih =>
    cases event with
    | added => exact ih (isPicture_added.1 picture) (isPicture_added.1 picture')
    | chosen => exact (isPicture_chosen.1 picture).trans (isPicture_chosen.1 picture').symm
    | removed => exact ih (isPicture_removed.1 picture).1 (isPicture_removed.1 picture').1

namespace Attachments

/-- Attachments are what a log of their files tells. -/
structure Matches (a : Attachments) (log : List FileEvent) : Prop where
  /-- The files are those that were added and not removed since, in order. -/
  listed : a.files.map (·.marked false) = standing log
  /-- Their media types may be uploaded, and their kinds follow from the media types. -/
  proper : ∀ file ∈ a.files,
    MediaType.isAllowed file.mediaType ∧ file.kind = .ofMediaType file.mediaType
  /-- No two have the same identifier. -/
  distinct : a.ids.Nodup
  /-- The picture is marked, and no other file. -/
  marked : ∀ file ∈ a.files, file.isProfilePicture ↔ IsPicture log file.id
  /-- The picture is one of the files, and it is an image. -/
  image : ∀ id, IsPicture log id → ∃ file ∈ a.files, file.id = id ∧ file.isImage

namespace Matches

variable {a chosen : Attachments}

theorem empty (owner : Owner) : (Attachments.empty owner).Matches [] where
  listed := rfl
  proper := fun _ member => absurd member List.not_mem_nil
  distinct := List.nodup_nil
  marked := fun _ member => absurd member List.not_mem_nil
  image := fun _ picture => (not_since_nil picture).elim

/-! ## Operations -/

/-- A new file comes last and is not marked. -/
theorem attach (matched : a.Matches log) (absent : file.id ∉ a.ids)
    (allowed : MediaType.isAllowed file.mediaType) (kind : file.kind = .ofMediaType file.mediaType)
    (unmarked : file.isProfilePicture = false) :
    (a.attach file).Matches (log ++ [.added file]) := by
  have files : (a.attach file).files = a.files ++ [file] := by
    rw [attach_of_not_mem absent, unmarked, Bool.false_and, File.marked, ← unmarked]
  refine ⟨?_, ?_, ?_, ?_, ?_⟩
  · rw [files, List.map_append, matched.listed, standing_added, List.map_singleton, File.marked,
      ← unmarked]
  · rw [files, List.forall_mem_append, List.forall_mem_singleton]
    exact ⟨matched.proper, allowed, kind⟩
  · exact nodup_ids_attach matched.distinct file
  · rw [files, List.forall_mem_append, List.forall_mem_singleton]
    refine ⟨fun old member => (matched.marked old member).trans isPicture_added.symm, ?_⟩
    have noPicture : ¬ IsPicture log file.id := by
      intro picture
      obtain ⟨old, member, same⟩ := matched.image file.id picture
      exact absent (same.1 ▸ List.mem_map_of_mem member)
    rw [unmarked, isPicture_added]
    exact iff_of_false Bool.false_ne_true noPicture
  · intro id picture
    obtain ⟨file', member, found⟩ := matched.image id (isPicture_added.1 picture)
    exact ⟨file', files ▸ List.mem_append_left _ member, found⟩

/-- The chosen file takes the mark from the one that had it. -/
theorem choosePicture (matched : a.Matches log) (inside : a.file? id = some file)
    (image : file.isImage) (chosen_eq : a.choosePicture id = .ok chosen) :
    chosen.Matches (log ++ [.chosen id]) := by
  obtain ⟨member, atId⟩ := (find?_key_eq_some_iff matched.distinct).1 inside
  have files := congrArg Attachments.files (choosePicture_eq_ok chosen_eq)
  refine ⟨?_, ?_, ?_, ?_, ?_⟩
  · rw [files, standing_chosen, ← matched.listed, List.map_map]
    rfl
  · rw [files, List.forall_mem_map]
    exact matched.proper
  · rw [ids_choosePicture chosen_eq]
    exact matched.distinct
  · rw [files, List.forall_mem_map]
    intro other member
    rw [isPicture_chosen]
    exact beq_iff_eq
  · intro other picture
    obtain rfl := isPicture_chosen.1 picture
    refine ⟨file.marked (file.id == other), ?_, atId, image⟩
    rw [files]
    exact List.mem_map_of_mem member

/-- The other files stay, and where the picture is removed there is none. -/
theorem detach (matched : a.Matches log) (id : EntityId) :
    (a.detach id).Matches (log ++ [.removed id]) := by
  have files : (a.detach id).files = a.files.filter (·.id != id) :=
    removeFirst_eq_filter matched.distinct
  have kept {file : File} : file ∈ (a.detach id).files ↔ file ∈ a.files ∧ file.id ≠ id := by
    rw [files, List.mem_filter, bne_iff_ne]
  refine ⟨?_, ?_, ?_, ?_, ?_⟩
  · rw [files, standing_removed, ← matched.listed, List.filter_map]
    rfl
  · intro file member
    exact matched.proper file (kept.1 member).1
  · exact matched.distinct.sublist (ids_detach_sublist a id)
  · intro file member
    obtain ⟨member, differs⟩ := kept.1 member
    rw [isPicture_removed, matched.marked file member, and_iff_left differs]
  · intro other picture
    obtain ⟨picture, differs⟩ := isPicture_removed.1 picture
    obtain ⟨file, member, atOther, image⟩ := matched.image other picture
    exact ⟨file, kept.2 ⟨member, atOther ▸ differs⟩, atOther, image⟩

/-! ## The picture -/

theorem isProfilePicture_eq (matched : a.Matches log) (picture : IsPicture log id)
    (member : file ∈ a.files) : file.isProfilePicture = (file.id == id) := by
  rw [Bool.eq_iff_iff, beq_iff_eq, matched.marked file member]
  constructor
  · intro picture'
    exact picture'.unique picture
  · intro atId
    exact atId ▸ picture

theorem profilePicture?_eq (matched : a.Matches log) (picture : IsPicture log id) :
    a.profilePicture? = a.file? id :=
  List.find?_congr fun _ => matched.isProfilePicture_eq picture

/-- The profile picture is the file that was chosen last, unless it was removed since. -/
theorem id_profilePicture?_iff (matched : a.Matches log) :
    a.profilePicture?.map File.id = some id ↔ IsPicture log id := by
  constructor
  · intro shown
    obtain ⟨file, found, rfl⟩ := Option.map_eq_some_iff.1 shown
    exact (matched.marked file (List.mem_of_find?_eq_some found)).1 (List.find?_some found)
  · intro picture
    obtain ⟨file, member, atId, -⟩ := matched.image id picture
    have found : a.file? id = some file :=
      (find?_key_eq_some_iff matched.distinct).2 ⟨member, atId⟩
    rw [matched.profilePicture?_eq picture, found, Option.map_some, atId]

/-- No file is marked but the profile picture. -/
theorem filter_isProfilePicture (matched : a.Matches log) :
    a.files.filter (·.isProfilePicture) = a.profilePicture?.toList := by
  cases shown : a.profilePicture? with
  | none => simpa [profilePicture?] using shown
  | some file =>
    have picture : IsPicture log file.id := matched.id_profilePicture?_iff.1 (by rw [shown]; rfl)
    rw [List.filter_congr fun _ => matched.isProfilePicture_eq picture,
      filter_key_eq_toList matched.distinct, ← shown, matched.profilePicture?_eq picture]
    rfl

theorem isImage_of_isProfilePicture (matched : a.Matches log) (member : file ∈ a.files)
    (isMarked : file.isProfilePicture) : file.isImage := by
  obtain ⟨picture, inside, same, image⟩ :=
    matched.image file.id ((matched.marked file member).1 isMarked)
  obtain rfl := List.inj_on_of_nodup_map matched.distinct inside member same
  exact image

end Matches

end Attachments

end PartsCatalog
