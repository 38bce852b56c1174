import PartsCatalog.EntityId
import PartsCatalog.Json.Basic
import PartsCatalog.Json.Escape
import PartsCatalog.Json.Numeral

/-!
# Writing JSON

Values built from what a program holds, and their text.  Two layouts are in use: everything on one
line without blanks, and every item on a line of its own, indented by two blanks a level.
-/

namespace PartsCatalog.Json

/-! ## Building values -/

namespace Value

/-- A text as a string. -/
def ofText (s : String) : Value := .string (escape s)

/-- An integer. -/
def ofInt (n : Int) : Value := .number (toString n).toList

/-- A number; what is not finite has no numeral and becomes `null`. -/
def ofBinary64 (x : Binary64) : Value :=
  if x.isFinite then .number (x.shortest numberStyle).toList else .null

/-- What may be absent: `null` if it is. -/
def ofOption {α : Type} (form : α → Value) : Option α → Value
  | some a => form a
  | none => .null

/-- A list. -/
def ofList {α : Type} (form : α → Value) (items : List α) : Value := .array (items.map form)

/-- An object with the given members. -/
def ofFields (fields : List (String × Value)) : Value :=
  .object (fields.map fun (name, value) => (escape name, value))

end Value

/-! ## Layout -/

/-- How the parts of a value are set apart. -/
structure Layout where
  /-- What stands before an item, and before the closing bracket, at a level of nesting. -/
  lineStart : Nat → List Char
  colon : List Char

/-- Everything on one line, without blanks. -/
def Layout.compact : Layout := { lineStart := fun _ => [], colon := [':'] }

/-- Every item on a line of its own. -/
def Layout.indented : Layout :=
  { lineStart := fun level => '\n' :: List.replicate (2 * level) ' ', colon := [':', ' '] }

mutual

/-- The text of a value at a level of nesting. -/
def write (layout : Layout) (level : Nat) : Value → List Char
  | .null => ['n', 'u', 'l', 'l']
  | .bool true => ['t', 'r', 'u', 'e']
  | .bool false => ['f', 'a', 'l', 's', 'e']
  | .number literal => literal
  | .string written => '"' :: written ++ ['"']
  | .array [] => ['[', ']']
  | .array (item :: items) =>
    '[' :: layout.lineStart (level + 1) ++ write layout (level + 1) item
      ++ writeItems layout (level + 1) items ++ layout.lineStart level ++ [']']
  | .object [] => ['\x7b', '\x7d']
  | .object (member :: members) =>
    '\x7b' :: layout.lineStart (level + 1) ++ writeMember layout (level + 1) member
      ++ writeMembers layout (level + 1) members ++ layout.lineStart level ++ ['\x7d']

/-- The text of the items after the first one. -/
def writeItems (layout : Layout) (level : Nat) : List Value → List Char
  | [] => []
  | item :: items =>
    ',' :: layout.lineStart level ++ write layout level item ++ writeItems layout level items

/-- The text of a member. -/
def writeMember (layout : Layout) (level : Nat) : List Char × Value → List Char
  | (name, value) => '"' :: name ++ '"' :: layout.colon ++ write layout level value

/-- The text of the members after the first one. -/
def writeMembers (layout : Layout) (level : Nat) : List (List Char × Value) → List Char
  | [] => []
  | member :: members =>
    ',' :: layout.lineStart level ++ writeMember layout level member
      ++ writeMembers layout level members

end

/-- A value on one line. -/
def Value.compact (value : Value) : String := String.ofList (write .compact 0 value)

/-- A value on indented lines. -/
def Value.pretty (value : Value) : String := String.ofList (write .indented 0 value)

end PartsCatalog.Json
