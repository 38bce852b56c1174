import Mathlib.Data.List.Nodup
import PartsCatalog.Proofs.Attachment
import PartsCatalog.Proofs.Editing.Outcome

/-!
# Edits of files

Files that come about by edits have different identifiers, and at most one of them is marked as the
profile picture, whichever marks they came with (`edits_keep_files_and_their_picture`).  Both are
kept by every edit (`Orderly.edited`).  Apart from the marks an edit leaves the files as they are,
appends one or takes one out (`unmarked_edited`), so those that remain are the same and stand in the
same order.
-/

namespace PartsCatalog.Attachments

variable {a : Attachments} {file : File} {id : EntityId}

/-! ## Marks -/

/-- The files apart from their marks. -/
def unmarked (a : Attachments) : List File := a.files.map (·.marked false)

theorem map_id_unmarked (a : Attachments) : a.unmarked.map File.id = a.ids := by
  rw [unmarked, List.map_map, ids]
  rfl

/-- Marking files in some way changes nothing but the marks. -/
theorem map_unmarked_map (mark : File → Bool) (files : List File) :
    (files.map fun f => f.marked (mark f)).map (·.marked false) = files.map (·.marked false) := by
  rw [List.map_map]
  rfl

theorem ids_of_unmarked {b : Attachments} (same : b.unmarked = a.unmarked) : b.ids = a.ids := by
  rw [← map_id_unmarked, same, map_id_unmarked]

theorem countP_map_marked (mark : File → Bool) (files : List File) :
    (files.map fun f => f.marked (mark f)).countP (·.isProfilePicture) = files.countP mark := by
  rw [List.countP_map]
  rfl

theorem isNone_profilePicture? (a : Attachments) :
    a.profilePicture?.isNone = !a.files.any (·.isProfilePicture) := by
  rw [Bool.eq_iff_iff]
  simp [profilePicture?]

/-- Files with different identifiers, of which at most one is marked. -/
structure Orderly (a : Attachments) : Prop where
  distinct : a.ids.Nodup
  oneMarked : a.files.countP (·.isProfilePicture) ≤ 1

/-! ## Answers -/

theorem edited_attach (file : File) : a.edited (.attach file) = a.attach file := rfl

theorem edit_attach_of_mem (present : file.id ∈ a.ids) :
    a.edit (.attach file) = .ok (a.edited (.attach file), .attached false) := by
  obtain ⟨known, found⟩ := Option.isSome_iff_exists.1 (isSome_file?_iff.2 present)
  have answer : (a.file? file.id).isNone = false := by rw [found, Option.isNone_some]
  rw [← answer]
  rfl

theorem edit_attach_of_not_mem (absent : file.id ∉ a.ids) :
    a.edit (.attach file) = .ok (a.edited (.attach file), .attached true) := by
  have answer : (a.file? file.id).isNone = true := by
    rw [file?_eq_none_iff.2 absent, Option.isNone_none]
  rw [← answer]
  rfl

theorem edited_detach (id : EntityId) : a.edited (.detach id) = a.detach id := rfl

theorem edit_detach (distinct : a.ids.Nodup) (id : EntityId) :
    a.edit (.detach id) =
      .ok ({ a with files := a.files.filter (·.id != id) }, .detached (a.file? id)) := by
  have left : a.detach id = { a with files := a.files.filter (·.id != id) } :=
    congrArg (Attachments.mk a.owner) (removeFirst_eq_filter distinct)
  rw [← left]
  rfl

/-- The file is looked for before a mark is written. -/
theorem performs_choosePicture :
    Editing.Performs (Edit.perform (.choosePicture id)) (·.choosePicture id) .done a := by
  rw [Editing.Performs]
  cases found : a.file? id with
  | none =>
    simp only [choosePicture, Edit.perform, EStateM.run_bind, EStateM.run_get, found]
    rfl
  | some file =>
    simp only [choosePicture, Edit.perform, EStateM.run_bind, EStateM.run_get, found]
    rfl

theorem edit_choosePicture_of_mem (present : id ∈ a.ids) :
    let chosen := { a with files := a.files.map fun f => f.marked (f.id == id) }
    a.edit (.choosePicture id) = .ok (chosen, .done) ∧ a.edited (.choosePicture id) = chosen :=
  performs_choosePicture.of_ok (choosePicture_of_mem present)

theorem edit_choosePicture_of_not_mem (absent : id ∉ a.ids) :
    a.edit (.choosePicture id) = .error (.fileMissing id) ∧ a.edited (.choosePicture id) = a :=
  performs_choosePicture.of_error (choosePicture_of_not_mem absent)

/-! ## One edit -/

/-- Apart from the marks an edit leaves the files, appends one under a new identifier or takes one
out. -/
theorem unmarked_edited (distinct : a.ids.Nodup) (e : Edit) :
    (a.edited e).unmarked = a.unmarked ∨
      (∃ file : File, file.id ∉ a.ids ∧ (a.edited e).unmarked = a.unmarked ++ [file.marked false]) ∨
      ∃ id, (a.edited e).unmarked = a.unmarked.filter (·.id != id) := by
  cases e with
  | attach file =>
    by_cases present : file.id ∈ a.ids
    · rw [edited_attach, attach_of_mem present]
      exact .inl rfl
    · refine .inr (.inl ⟨file, present, ?_⟩)
      rw [edited_attach, attach_of_not_mem present, unmarked, List.map_append]
      rfl
  | detach id =>
    have left : (a.detach id).files = a.files.filter (·.id != id) := removeFirst_eq_filter distinct
    refine .inr (.inr ⟨id, ?_⟩)
    rw [edited_detach, unmarked, unmarked, left, List.filter_map]
    rfl
  | choosePicture id =>
    by_cases present : id ∈ a.ids
    · rw [(edit_choosePicture_of_mem present).2]
      exact .inl (map_unmarked_map _ _)
    · rw [(edit_choosePicture_of_not_mem present).2]
      exact .inl rfl
  | clearPicture => exact .inl (map_unmarked_map _ _)

/-- The files that remain are the same apart from the marks, and stand in the same order. -/
theorem remaining_edited (distinct : a.ids.Nodup) (e : Edit) :
    (a.edited e).unmarked.filter (·.id ∈ a.ids) =
      a.unmarked.filter (·.id ∈ (a.edited e).ids) := by
  have own : ∀ file ∈ a.unmarked, file.id ∈ a.ids := by
    intro file member
    rw [← map_id_unmarked]
    exact List.mem_map_of_mem member
  have all : a.unmarked.filter (·.id ∈ a.ids) = a.unmarked :=
    List.filter_eq_self.2 fun file member => decide_eq_true (own file member)
  rw [← map_id_unmarked (a.edited e)]
  rcases unmarked_edited distinct e with same | ⟨file, absent, added⟩ | ⟨id, left⟩
  · rw [same, map_id_unmarked]
  · have rest : [file.marked false].filter (·.id ∈ a.ids) = [] :=
      List.filter_eq_nil_iff.2 (by simpa [File.marked] using absent)
    rw [added, List.filter_append, all, rest, List.append_nil, eq_comm, List.filter_eq_self]
    intro file' member
    rw [List.map_append]
    exact decide_eq_true (List.mem_append_left _ (List.mem_map_of_mem member))
  · rw [left, List.filter_filter]
    apply List.filter_congr
    intro file member
    rw [Bool.eq_iff_iff, Bool.and_eq_true, decide_eq_true_iff, decide_eq_true_iff, bne_iff_ne]
    constructor
    · intro ⟨_, differs⟩
      exact List.mem_map_of_mem (List.mem_filter.2 ⟨member, bne_iff_ne.2 differs⟩)
    · intro remains
      obtain ⟨file', inside, same⟩ := List.mem_map.1 remains
      have differs := bne_iff_ne.1 (List.mem_filter.1 inside).2
      exact ⟨own file member, same ▸ differs⟩

namespace Orderly

theorem empty (owner : Owner) : (empty owner).Orderly := ⟨List.nodup_nil, Nat.zero_le 1⟩

/-- A file that comes in is marked only if no other is. -/
theorem attach (orderly : a.Orderly) (file : File) : (a.attach file).Orderly := by
  refine ⟨nodup_ids_attach orderly.distinct file, ?_⟩
  by_cases present : file.id ∈ a.ids
  · rw [attach_of_mem present]
    exact orderly.oneMarked
  · rw [attach_of_not_mem present, List.countP_append]
    cases shown : a.profilePicture? with
    | none =>
      have unmarked : a.files.countP (·.isProfilePicture) = 0 :=
        List.countP_eq_zero.2 (List.find?_eq_none.1 shown)
      rw [unmarked, Nat.zero_add]
      exact List.countP_le_length
    | some picture =>
      rw [Option.isNone_some, Bool.and_false]
      exact orderly.oneMarked

theorem detach (orderly : a.Orderly) (id : EntityId) : (a.detach id).Orderly :=
  ⟨orderly.distinct.sublist (ids_detach_sublist a id),
    Nat.le_trans (removeFirst_sublist File.id id a.files).countP_le orderly.oneMarked⟩

/-- A file that is chosen takes the mark from all others. -/
theorem marked (orderly : a.Orderly) {mark : File → Bool} (once : a.files.countP mark ≤ 1) :
    Orderly { a with files := a.files.map fun f => f.marked (mark f) } := by
  have ids : ids { a with files := a.files.map fun f => f.marked (mark f) } = a.ids :=
    ids_of_unmarked (map_unmarked_map mark a.files)
  exact ⟨ids ▸ orderly.distinct, by rwa [countP_map_marked]⟩

theorem edited (orderly : a.Orderly) (e : Edit) : (a.edited e).Orderly := by
  cases e with
  | attach file => exact orderly.attach file
  | detach id => exact orderly.detach id
  | choosePicture id =>
    by_cases present : id ∈ a.ids
    · have once : a.files.countP (·.id == id) ≤ 1 := by
        have counted := List.nodup_iff_count_le_one.1 orderly.distinct id
        rwa [ids, List.count, List.countP_map] at counted
      rw [(edit_choosePicture_of_mem present).2]
      exact orderly.marked once
    · rw [(edit_choosePicture_of_not_mem present).2]
      exact orderly
  | clearPicture =>
    have none : a.files.countP (fun _ => false) ≤ 1 := by simp
    exact orderly.marked none

theorem editAll (orderly : a.Orderly) (edits : List Edit) : (a.editAll edits).Orderly :=
  List.foldlRecOn edits Attachments.edited orderly fun _ orderly e _ => orderly.edited e

end Orderly

/-! ## All edits -/

/-- The file that is chosen is the only one that is marked. -/
theorem map_id_filter_chosen (distinct : a.ids.Nodup) (present : id ∈ a.ids) :
    ((a.edited (.choosePicture id)).files.filter (·.isProfilePicture)).map File.id = [id] := by
  rw [(edit_choosePicture_of_mem present).2, List.filter_map]
  have marked : a.files.filter ((·.isProfilePicture) ∘ fun f => f.marked (f.id == id)) =
      a.files.filter (·.id == id) := rfl
  obtain ⟨file, found⟩ := Option.isSome_iff_exists.1 (isSome_file?_iff.2 present)
  have atKey : file.id = id := ((find?_key_eq_some_iff distinct).1 found).2
  rw [marked, filter_key_eq_toList distinct, ← file?, found]
  exact congrArg (fun id => [id]) atKey

/-- **Files and their picture** after any edits of an owner without files.  The files have different
identifiers, and at most one is marked as the profile picture.  A file that is attached comes last
and keeps its mark if no other is marked; if its identifier is there, nothing changes.  A file that
is chosen becomes the only one that is marked; if it is not there, choosing it fails and nothing
changes.  A file that is detached goes alone.  Apart from the marks every edit leaves the files that
remain as they are, in their order. -/
theorem edits_keep_files_and_their_picture (owner : Owner) (edits : List Edit) :
    let a := (empty owner).editAll edits
    a.ids.Nodup ∧ a.files.countP (·.isProfilePicture) ≤ 1 ∧
    (∀ file,
      let attached := a.edited (.attach file)
      let keeps := file.isProfilePicture && !a.files.any (·.isProfilePicture)
      file.id ∈ a.ids ∧ a.edit (.attach file) = .ok (attached, .attached false) ∧ attached = a ∨
        file.id ∉ a.ids ∧ a.edit (.attach file) = .ok (attached, .attached true) ∧
          attached = { a with files := a.files ++ [file.marked keeps] }) ∧
    (∀ id,
      let chosen := a.edited (.choosePicture id)
      id ∈ a.ids ∧ a.edit (.choosePicture id) = .ok (chosen, .done) ∧
          (chosen.files.filter (·.isProfilePicture)).map File.id = [id] ∨
        id ∉ a.ids ∧ a.edit (.choosePicture id) = .error (.fileMissing id) ∧ chosen = a) ∧
    (∀ id, a.edit (.detach id) =
      .ok ({ a with files := a.files.filter (·.id != id) }, .detached (a.file? id))) ∧
    ∀ e, (a.edited e).unmarked.filter (·.id ∈ a.ids) =
      a.unmarked.filter (·.id ∈ (a.edited e).ids) := by
  intro a
  have orderly : a.Orderly := (Orderly.empty owner).editAll edits
  refine ⟨orderly.distinct, orderly.oneMarked, fun file => ?_, fun id => ?_,
    edit_detach orderly.distinct, remaining_edited orderly.distinct⟩
  · by_cases present : file.id ∈ a.ids
    · exact .inl ⟨present, edit_attach_of_mem present, attach_of_mem present⟩
    · refine .inr ⟨present, edit_attach_of_not_mem present, ?_⟩
      rw [edited_attach, attach_of_not_mem present, isNone_profilePicture?]
  · by_cases present : id ∈ a.ids
    · refine .inl ⟨present, ?_, map_id_filter_chosen orderly.distinct present⟩
      rw [(edit_choosePicture_of_mem present).1, (edit_choosePicture_of_mem present).2]
    · exact .inr ⟨present, edit_choosePicture_of_not_mem present⟩

/-- Of two marked files the first keeps its mark, until it is gone. -/
example :
    let cover (id : EntityId) : File := (File.new id "cover" "cover" "image/png").marked true
    let a := (empty (.product 1)).editAll [.attach (cover 2), .attach (cover 3)]
    a.files.map (·.isProfilePicture) = [true, false] ∧
      ((a.edited (.detach 2)).edited (.attach (cover 4))).files.map (·.isProfilePicture) =
        [false, true] := by decide

end PartsCatalog.Attachments
