import PartsCatalog.Text.Base64
import PartsCatalog.Text.Numeral
import PartsCatalog.Text.Split

/-!
# Password hashes as text

A password hash is kept as a text of fields behind dollar signs: the algorithm, its version, its
parameters, the salt and the hash proper.  All but the first may be missing, from the end on; the
version and the parameters are told from what follows by their equals signs.
-/

namespace PartsCatalog.Password

/-- The parts of a password hash. -/
structure HashString where
  algorithm : String
  version : Option Nat
  parameters : List (String × String)
  /-- The salt in base64. -/
  salt : Option String
  hash : Option (List UInt8)
deriving DecidableEq

namespace HashString

/-! ## Parts -/

/-- Whether a text can name an algorithm or a parameter. -/
def isIdentifier (s : String) : Bool :=
  1 ≤ s.length && s.length ≤ 32
    && s.toList.all fun c => c.isLower || c.isDigit || c == '-'

/-- Whether a character can stand in a value or a salt. -/
def isValueChar (c : Char) : Bool := c.isAlphanum || c == '/' || c == '+' || c == '.' || c == '-'

/-- Whether a text can be the value of a parameter. -/
def isValue (s : String) : Bool := s.length ≤ 64 && s.toList.all isValueChar

/-- Whether a text can be a salt. -/
def isSalt (s : String) : Bool := 4 ≤ s.length && isValue s

/-- The number that a value denotes: digits without a leading zero, of 32 bits. -/
def readNumber? (value : String) : Option Nat :=
  let digits := value.toList
  if digits.head? == some '0' && 1 < digits.length then none
  else (Text.readDigits? digits).filter (· < Nat.pow 2 32)

/-- The name and the value of a parameter. -/
def readParameter? (s : String) : Option (String × String) :=
  match Text.split '=' s with
  | [name, value] => if isIdentifier name && isValue value then some (name, value) else none
  | _ => none

/-- The bytes of a hash: from 10 to 64. -/
def readHash? (s : String) : Option (List UInt8) :=
  (Text.Base64.decode? s.toList).filter fun bytes => 10 ≤ bytes.length && bytes.length ≤ 64

/-! ## Reading -/

/-- Takes the version, if the first field is one. -/
def takeVersion? : List String → Option (Option Nat × List String)
  | [] => some (none, [])
  | field :: fields =>
    match field.toList with
    | 'v' :: '=' :: value =>
      if value.contains ',' then some (none, field :: fields)
      else (readNumber? (String.ofList value)).map fun version => (some version, fields)
    | _ => some (none, field :: fields)

/-- Takes the parameters, if the first field holds any. -/
def takeParameters? : List String → Option (List (String × String) × List String)
  | [] => some ([], [])
  | field :: fields =>
    if field.toList.contains '=' then
      if field.length ≤ 127 then
        ((Text.split ',' field).mapM readParameter?).map fun parameters => (parameters, fields)
      else none
    else some ([], field :: fields)

/-- The salt and the hash, and nothing behind them. -/
def readRest? : List String → Option (Option String × Option (List UInt8))
  | [] => some (none, none)
  | [salt] => if isSalt salt then some (some salt, none) else none
  | [salt, hash] =>
    if isSalt salt then (readHash? hash).map fun hash => (some salt, some hash) else none
  | _ => none

/-- The password hash that a text is. -/
def ofText? (s : String) : Option HashString := do
  let "" :: algorithm :: fields := Text.split '$' s | none
  let (version, fields) ← takeVersion? fields
  let (parameters, fields) ← takeParameters? fields
  let (salt, hash) ← readRest? fields
  if isIdentifier algorithm then return { algorithm, version, parameters, salt, hash } else none

/-! ## Writing -/

/-- The field of the parameters. -/
def parametersText (parameters : List (String × String)) : String :=
  ",".intercalate (parameters.map fun (name, value) => name ++ "=" ++ value)

/-- A hash in base64. -/
def hashText (hash : List UInt8) : String :=
  String.ofList (Text.Base64.encode Text.Base64.standard hash)

/-- A password hash as a text. -/
def text (h : HashString) : String :=
  let fields :=
    [h.algorithm]
      ++ (h.version.map fun version => "v=" ++ toString version).toList
      ++ (if h.parameters.isEmpty then [] else [parametersText h.parameters])
      ++ h.salt.toList
      ++ (h.hash.map hashText).toList
  "".intercalate (fields.map ("$" ++ ·))

end HashString

end PartsCatalog.Password
