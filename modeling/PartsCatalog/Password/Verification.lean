import PartsCatalog.Fault
import PartsCatalog.Password.Argon2.Tag
import PartsCatalog.Password.HashString

/-!
# Verifying passwords

A password is right if Argon2 makes the kept hash of it, with the salt and the parameters that are
kept beside it.  A hash that Argon2 cannot have made fits no password.
-/

namespace PartsCatalog.Password

open Argon2

/-! ## Parameters of a hash -/

/-- The work for a new hash: 19 MiB, two passes, one lane. -/
def usualCost : Cost := { memory := 19456, passes := 2, lanes := 1 }

/-- The parameters that can stand in a hash. -/
structure Parameters where
  cost : Cost
  /-- The name of a secret key; no key is in use, so it changes nothing. -/
  keyName : List UInt8
  associated : List UInt8

/-- The parameters of a hash that names none. -/
def Parameters.usual : Parameters := { cost := usualCost, keyName := [], associated := [] }

/-- The bytes of a parameter in base64, of which there are at most `most`. -/
def readBytes? (most : Nat) (value : String) : Option (List UInt8) :=
  (Text.Base64.decode? value.toList).filter (·.length ≤ most)

/-- Sets a parameter by its name. -/
def Parameters.set? (p : Parameters) : String × String → Option Parameters
  | ("m", value) =>
    (HashString.readNumber? value).map fun memory => { p with cost := { p.cost with memory } }
  | ("t", value) =>
    (HashString.readNumber? value).map fun passes => { p with cost := { p.cost with passes } }
  | ("p", value) =>
    (HashString.readNumber? value).map fun lanes => { p with cost := { p.cost with lanes } }
  | ("keyid", value) => (readBytes? 8 value).map fun keyName => { p with keyName }
  | ("data", value) => (readBytes? 32 value).map fun associated => { p with associated }
  | _ => none

/-- Whether the work can be done: every lane has two blocks in every slice, and there are at most
2²⁴ - 1 lanes. -/
def isFeasible (c : Cost) : Bool :=
  8 ≤ c.memory && 8 * c.lanes ≤ c.memory && 1 ≤ c.passes && 1 ≤ c.lanes &&
    c.lanes < Nat.pow 2 24

/-- The parameters of a hash, if the work can be done with them. -/
def Parameters.ofHash? (h : HashString) : Option Parameters :=
  (h.parameters.foldlM Parameters.set? usual).filter fun p => isFeasible p.cost

/-- The variant that an algorithm names. -/
def variant? : String → Option Variant
  | "argon2d" => some .dependent
  | "argon2i" => some .independent
  | "argon2id" => some .hybrid
  | _ => none

/-- The version of a number; a hash without one is of the newer version. -/
def version? : Option Nat → Option Version
  | none => some .v19
  | some 16 => some .v16
  | some 19 => some .v19
  | some _ => none

/-- The bytes of a salt: at least eight. -/
def readSalt? (salt : String) : Option (List UInt8) :=
  (Text.Base64.decode? salt.toList).filter (8 ≤ ·.length)

/-! ## Verifying -/

/-- The hash of a password with the salt and the parameters of another hash, if there is one. -/
def rehash? (password : String) (h : HashString) (length : Nat) : Option (List UInt8) := do
  let variant ← variant? h.algorithm
  let version ← version? h.version
  let parameters ← Parameters.ofHash? h
  let salt ← h.salt.bind readSalt?
  let input := { password := password.toUTF8.toList, salt, associated := parameters.associated }
  return tag { variant, version, cost := parameters.cost } input length

/-- Whether a password is the one that a hash was made of. -/
def HashString.verifies (h : HashString) (password : String) : Bool :=
  match h.hash with
  | some hash => rehash? password h hash.length == some hash
  | none => false

/-- A password hash is well formed. -/
def checkFormat (hash : String) : Except Fault HashString :=
  match HashString.ofText? hash with
  | some h => .ok h
  | none => .error .passwordHashMalformed

/-- Whether a password is the one that a hash was made of; a fault if the hash is malformed. -/
def verify (password hash : String) : Except Fault Bool :=
  match HashString.ofText? hash with
  | some h => .ok (h.verifies password)
  | none => .error .passwordHashUnreadable

/-! ## Making a hash -/

/-- The number of bytes of a new hash. -/
def usualLength : Nat := 32

/-- The hash of a password, given random bytes for the salt.  The password is not empty. -/
def hash (password : String) (salt : List UInt8) : Except Fault HashString :=
  if password.isEmpty then .error (.fieldBlank "密碼")
  else
    let input := { password := password.toUTF8.toList, salt, associated := [] }
    .ok
      { algorithm := "argon2id"
        version := some Version.v19.code
        parameters :=
          [("m", toString usualCost.memory), ("t", toString usualCost.passes),
            ("p", toString usualCost.lanes)]
        salt := some (HashString.hashText salt)
        hash := some <|
          tag { variant := .hybrid, version := .v19, cost := usualCost } input usualLength }

end PartsCatalog.Password
