import PartsCatalog.Inventory.Action

/-!
# Files in the inventory

Files are attached to a material or a product that is there; only an image can become its profile
picture.
-/

namespace PartsCatalog.Inventory

open PartsCatalog.Action

/-- Attaches a file. -/
def addFile (owner : Owner) (name path mediaType : String) (bytes : Nat) : Action EntityId := do
  consult (·.checkOwner owner)
  consult fun _ => MediaType.checkUpload mediaType bytes
  let id ← takeId
  modify fun inv =>
    let files := (inv.attachmentsOf? owner).getD (.empty owner)
    inv.putAttachments owner (files.attach (.new id name path mediaType))
  return id

/-- The files of an owner among which the given one is to be found. -/
def attachmentsWith (inv : Inventory) (owner : Owner) (fileId : EntityId) :
    Except Fault (Attachments × File) :=
  match inv.attachmentsOf? owner with
  | none => .error (.fileMissing fileId)
  | some files =>
    match files.file? fileId with
    | none => .error (.fileMissing fileId)
    | some file => .ok (files, file)

/-- Only an image can become a profile picture. -/
def checkImage (file : File) : Except Fault Unit :=
  if file.isImage then .ok () else .error (.notAnImage file.id)

/-- Makes an image the profile picture of its owner. -/
def choosePicture (owner : Owner) (fileId : EntityId) : Action Unit := do
  consult (·.checkOwner owner)
  let (files, file) ← consult (·.attachmentsWith owner fileId)
  consult fun _ => checkImage file
  let chosen ← consult fun _ => files.choosePicture fileId
  modify (·.putAttachments owner chosen)

/-- Removes a file, and answers what it was. -/
def removeFile (owner : Owner) (fileId : EntityId) : Action File := do
  let (files, file) ← consult (·.attachmentsWith owner fileId)
  modify (·.putAttachments owner (files.detach fileId))
  return file

end PartsCatalog.Inventory
