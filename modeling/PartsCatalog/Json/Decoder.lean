import PartsCatalog.EntityId
import PartsCatalog.Json.Basic
import PartsCatalog.Json.Escape
import PartsCatalog.Json.Numeral

/-!
# Reading values off

What a value means where something definite is expected.  A decoder is told how many levels of
nesting are left and refuses what nests deeper; only what it looks at counts.

A record may be given as an object, where unknown members are passed over and known ones stand at
most once, or as an array of its fields in order.
-/

namespace PartsCatalog.Json

/-- Reads something off a value, given the number of levels of nesting that are left. -/
abbrev Decoder (α : Type) := Nat → Value → Option α

/-- The most levels of arrays and objects that may be nested. -/
def nestingMost : Nat := 127

namespace Decoder

/-- What a decoder reads off a whole document. -/
def run {α : Type} (decoder : Decoder α) (value : Value) : Option α := decoder nestingMost value

/-! ## Scalars -/

/-- A truth value. -/
def flag : Decoder Bool
  | _, .bool b => some b
  | _, _ => none

/-- A text. -/
def text : Decoder String
  | _, .string written => unescape? written
  | _, _ => none

/-- An integer between two bounds. -/
def integer (least greatest : Int) : Decoder Int
  | _, .number literal =>
    (Numeral.ofLiteral literal).integer?.filter fun n => least ≤ n && n ≤ greatest
  | _, _ => none

/-- A natural number of so many bits. -/
def natural (bits : Nat) : Decoder Nat :=
  fun levels value => (integer 0 (Nat.pow 2 bits - 1) levels value).map Int.toNat

/-- An identifier. -/
def id : Decoder EntityId := integer EntityId.least EntityId.greatest

/-- A binary64 number. -/
def binary64 : Decoder Binary64
  | _, .number literal => (Numeral.ofLiteral literal).binary64?
  | _, _ => none

/-! ## Containers and choices -/

/-- Something that may be `null`. -/
def nullable {α : Type} (decoder : Decoder α) : Decoder (Option α)
  | _, .null => some none
  | levels, value => (decoder levels value).map some

/-- A list. -/
def list {α : Type} (decoder : Decoder α) : Decoder (List α)
  | levels + 1, .array items => items.mapM (decoder levels)
  | _, _ => none

/-- A choice: its name alone, or an object with its name and what belongs to it. -/
inductive Choice where
  | plain (name : String)
  /-- The levels are those left for the value. -/
  | withValue (name : String) (levels : Nat) (value : Value)

/-- Reads off a choice. -/
def choice : Decoder Choice
  | _, .string written => (unescape? written).map .plain
  | levels + 1, .object [(name, value)] =>
    (unescape? name).map fun name => .withValue name levels value
  | _, _ => none

/-- One of several names; given with a value, the value is `null`. -/
def oneOf {α : Type} (options : List (String × α)) : Decoder α :=
  fun levels value =>
    match choice levels value with
    | some (.plain name) | some (.withValue name _ .null) => options.lookup name
    | _ => none

/-! ## Records -/

/-- What a record says about one of its fields. -/
inductive Field where
  | given (value : Value)
  /-- The object has no such member. -/
  | missing
  /-- The array ends before it. -/
  | cutOff

/-- The members of an object by their names. -/
def namedMembers? (members : List (List Char × Value)) : Option (List (String × Value)) :=
  members.mapM fun (name, value) => (unescape? name).map fun name => (name, value)

/-- The fields of a record, in the order of `names`. -/
def fields? (names : List String) : Value → Option (List Field)
  | .array items =>
    if items.length ≤ names.length then
      some (names.mapIdx fun i _ => (items[i]?).elim .cutOff .given)
    else none
  | .object members => do
    let members ← namedMembers? members
    if names.all fun name => (members.filter (·.1 == name)).length ≤ 1 then
      return names.map fun name => (members.lookup name).elim .missing .given
    else none
  | _ => none

namespace Field

/-- A field that has to be there. -/
def required {α : Type} (field : Field) (decoder : Value → Option α) : Option α :=
  match field with
  | given value => decoder value
  | missing | cutOff => none

/-- A field that may be `null` or left out of an object. -/
def optional {α : Type} (field : Field) (decoder : Value → Option α) : Option (Option α) :=
  match field with
  | given .null => some none
  | given value => (decoder value).map some
  | missing => some none
  | cutOff => none

/-- A field that may be left out. -/
def orElse {α : Type} (field : Field) (default : α) (decoder : Value → Option α) : Option α :=
  match field with
  | given value => decoder value
  | missing | cutOff => some default

end Field

end Decoder

end PartsCatalog.Json
