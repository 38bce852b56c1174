import PartsCatalog.Text.PathName

/-!
# Names of stored files

A file is stored under sixteen random bytes and the extension of the name it came with, so that the
name decides nothing about the place.
-/

namespace PartsCatalog.StorageName

/-- The two lower-case hexadecimal digits of a byte. -/
def hexByte (byte : UInt8) : List Char :=
  [Nat.digitChar (byte.toNat / 16), Nat.digitChar (byte.toNat % 16)]

/-- Sixteen random bytes with the version and the variant of a random identifier marked in them. -/
def markRandom (bytes : List UInt8) : List UInt8 :=
  bytes.mapIdx fun i byte =>
    if i = 6 then byte &&& 0x0F ||| 0x40
    else if i = 8 then byte &&& 0x3F ||| 0x80
    else byte

/-- The extension that a stored file keeps; `bin` where its name has none. -/
def extension (uploadName : String) : String :=
  match Text.pathExtension? uploadName with
  | some e => if e.isEmpty then "bin" else e
  | none => "bin"

/-- The name under which a file is stored, given sixteen random bytes. -/
def unique (random : List UInt8) (uploadName : String) : String :=
  String.ofList ((markRandom random).flatMap hexByte) ++ "." ++ extension uploadName

end PartsCatalog.StorageName
