import PartsCatalog.Fault

/-!
# Media types of files

Which files may be uploaded, and which of them are images.
-/

namespace PartsCatalog

/-- Whether a file is shown as a picture. -/
inductive FileKind where
  | image
  | document
deriving DecidableEq

namespace FileKind

/-- The kind of the files of a media type. -/
def ofMediaType (mediaType : String) : FileKind :=
  if mediaType.startsWith "image/" then image else document

/-- The name of a kind. -/
def name : FileKind → String
  | image => "image"
  | document => "document"

end FileKind

namespace MediaType

/-- The media types that may be uploaded. -/
def allowed : List String := [
  "image/jpeg",
  "image/png",
  "image/gif",
  "image/webp",
  "application/pdf",
  "application/msword",
  "application/vnd.openxmlformats-officedocument.wordprocessingml.document",
  "application/vnd.openxmlformats-officedocument.spreadsheetml.sheet",
  "application/vnd.openxmlformats-officedocument.presentationml.presentation",
  "text/plain",
  "application/rtf",
  "application/zip",
  "application/x-zip-compressed"]

/-- Whether files of a media type may be uploaded. -/
def isAllowed (mediaType : String) : Bool := allowed.contains mediaType

/-- A file may be uploaded if it is not too large and its media type is allowed. -/
def checkUpload (mediaType : String) (bytes : Nat) : Except Fault Unit :=
  if Limits.uploadMost < bytes then .error (.uploadTooLarge bytes)
  else if isAllowed mediaType then .ok ()
  else .error (.mediaTypeRefused mediaType)

end MediaType

end PartsCatalog
