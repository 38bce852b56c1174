import PartsCatalog.Attachment
import PartsCatalog.Proofs.Keyed

/-!
# Laws of attached files

What attaching, detaching and choosing a picture do to the identifiers of the files and to their
owner.
-/

namespace PartsCatalog.Attachments

variable {a chosen : Attachments} {file : File} {id : EntityId}

/-- The identifiers of the files. -/
def ids (a : Attachments) : List EntityId := a.files.map File.id

@[simp] theorem ids_empty (owner : Owner) : (empty owner).ids = [] := rfl

theorem file?_eq_none_iff : a.file? id = none ↔ id ∉ a.ids := find?_key_eq_none_iff

theorem isSome_file?_iff : (a.file? id).isSome ↔ id ∈ a.ids := isSome_find?_key_iff

/-! ## Attaching -/

theorem attach_of_mem (present : file.id ∈ a.ids) : a.attach file = a :=
  if_pos (isSome_file?_iff.2 present)

theorem attach_of_not_mem (absent : file.id ∉ a.ids) :
    a.attach file =
      { a with
        files := a.files ++ [file.marked (file.isProfilePicture && a.profilePicture?.isNone)] } := by
  rw [attach, file?_eq_none_iff.2 absent]
  rfl

theorem ids_attach (absent : file.id ∉ a.ids) : (a.attach file).ids = a.ids ++ [file.id] := by
  rw [attach_of_not_mem absent, ids, List.map_append]
  rfl

/-- A file comes in under a new identifier or not at all. -/
theorem nodup_ids_attach (distinct : a.ids.Nodup) (file : File) : (a.attach file).ids.Nodup := by
  by_cases present : file.id ∈ a.ids
  · rwa [attach_of_mem present]
  · rw [ids_attach present]
    exact distinct.append (List.nodup_singleton _) (List.disjoint_singleton.2 present)

@[simp] theorem owner_attach (a : Attachments) (file : File) : (a.attach file).owner = a.owner := by
  unfold attach
  split <;> rfl

/-! ## Detaching -/

theorem removeFirst_sublist {α κ : Type} [BEq κ] (key : α → κ) (k : κ) :
    ∀ xs : List α, (removeFirst key k xs).Sublist xs
  | [] => .slnil
  | x :: xs => by
    unfold removeFirst
    split
    · exact List.sublist_cons_self x xs
    · exact (removeFirst_sublist key k xs).cons_cons x

theorem ids_detach_sublist (a : Attachments) (id : EntityId) : (a.detach id).ids.Sublist a.ids :=
  (removeFirst_sublist File.id id a.files).map File.id

theorem ids_perm_detach (inside : a.file? id = some file) :
    a.ids.Perm (id :: (a.detach id).ids) := by
  refine map_key_perm_removeFirst (List.mem_map.2 ⟨file, List.mem_of_find?_eq_some inside, ?_⟩)
  simpa using List.find?_some inside

/-! ## Choosing a picture -/

theorem choosePicture_of_mem (present : id ∈ a.ids) :
    a.choosePicture id = .ok { a with files := a.files.map fun f => f.marked (f.id == id) } :=
  if_pos (isSome_file?_iff.2 present)

theorem choosePicture_of_not_mem (absent : id ∉ a.ids) :
    a.choosePicture id = .error (.fileMissing id) := if_neg (mt isSome_file?_iff.1 absent)

theorem choosePicture_eq_ok (chosen_eq : a.choosePicture id = .ok chosen) :
    chosen = { a with files := a.files.map fun f => f.marked (f.id == id) } := by
  unfold choosePicture at chosen_eq
  split at chosen_eq
  · exact (Except.ok.inj chosen_eq).symm
  · cases chosen_eq

theorem ids_choosePicture (chosen_eq : a.choosePicture id = .ok chosen) : chosen.ids = a.ids := by
  rw [choosePicture_eq_ok chosen_eq, ids, List.map_map]
  rfl

end PartsCatalog.Attachments
