import PartsCatalog.FirstOccurrence
import PartsCatalog.MediaType

/-!
# Attached files

The files of one material or product.  Files are different by identifier, and as long as they are
attached by the operations here at most one of them is the profile picture.
-/

namespace PartsCatalog

/-- What files are attached to. -/
inductive Owner where
  | material (id : EntityId)
  | product (id : EntityId)
deriving DecidableEq

/-- An attached file. -/
structure File where
  id : EntityId
  /-- The name under which it was uploaded. -/
  name : String
  /-- Where it is stored. -/
  path : String
  mediaType : String
  kind : FileKind
  isProfilePicture : Bool
deriving DecidableEq

namespace File

/-- A file whose kind follows from its media type. -/
def new (id : EntityId) (name path mediaType : String) : File :=
  { id, name, path, mediaType, kind := .ofMediaType mediaType, isProfilePicture := false }

/-- Whether a file is an image. -/
def isImage (f : File) : Bool := f.kind = .image

/-- The file with or without the mark of the profile picture. -/
def marked (f : File) (isProfilePicture : Bool) : File := { f with isProfilePicture }

end File

/-- The files of an owner, in the order of upload. -/
structure Attachments where
  owner : Owner
  files : List File
deriving DecidableEq

namespace Attachments

/-- An owner without files. -/
def empty (owner : Owner) : Attachments := { owner, files := [] }

/-- The file with the given identifier. -/
def file? (a : Attachments) (id : EntityId) : Option File := a.files.find? (·.id == id)

/-- The profile picture. -/
def profilePicture? (a : Attachments) : Option File := a.files.find? (·.isProfilePicture)

/-- The files that are images. -/
def images (a : Attachments) : List File := a.files.filter (·.isImage)

/-- The attachments with one more file, unless its identifier is there.  A second profile picture
loses its mark. -/
def attach (a : Attachments) (file : File) : Attachments :=
  if (a.file? file.id).isSome then a
  else
    let isPicture := file.isProfilePicture && a.profilePicture?.isNone
    { a with files := a.files ++ [file.marked isPicture] }

/-- The attachments without the file of the given identifier. -/
def detach (a : Attachments) (id : EntityId) : Attachments :=
  { a with files := removeFirst File.id id a.files }

/-- The attachments with one file marked as the profile picture, and no other. -/
def choosePicture (a : Attachments) (id : EntityId) : Except Fault Attachments :=
  if (a.file? id).isSome then
    .ok { a with files := a.files.map fun f => f.marked (f.id == id) }
  else .error (.fileMissing id)

/-- The attachments without a profile picture. -/
def clearPicture (a : Attachments) : Attachments :=
  { a with files := a.files.map (·.marked false) }

end Attachments

end PartsCatalog
