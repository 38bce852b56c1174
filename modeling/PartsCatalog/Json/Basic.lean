/-!
# JSON values

A JSON value as it stands in a text.  Numbers and strings are kept as they are written: what a
number means depends on what is expected in its place, and a string that nobody looks at need not
even denote one.
-/

namespace PartsCatalog.Json

/-- A JSON value as it is written. -/
inductive Value where
  | null
  | bool (value : Bool)
  | number (literal : List Char)
  /-- A string by what stands between its quotes, escapes included. -/
  | string (written : List Char)
  | array (items : List Value)
  /-- An object by its members, each with its written name, in the order of the text. -/
  | object (members : List (List Char × Value))

instance : Inhabited Value := ⟨.null⟩

end PartsCatalog.Json
