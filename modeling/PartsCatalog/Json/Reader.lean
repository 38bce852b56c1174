import PartsCatalog.Json.Basic
import PartsCatalog.Json.Escape
import PartsCatalog.Json.Numeral

/-!
# Reading JSON

A text is one value with blanks around it.  The readers take a value from the front of a text and
answer the rest; the number that they count down bounds the calls, of which at most two stand
between one character taken and the next (`readText?`).
-/

namespace PartsCatalog.Json

/-- The blanks of JSON. -/
def isBlank (c : Char) : Bool := c == ' ' || c == '\t' || c == '\n' || c == '\r'

/-- A text without the blanks in front. -/
def skipBlanks (cs : List Char) : List Char := cs.dropWhile isBlank

/-- Takes the name of a member, its colon and the blanks around it. -/
def takeName? (cs : List Char) : Option (List Char × List Char) :=
  match skipBlanks cs with
  | '"' :: rest =>
    match takeString? rest with
    | some (name, rest) =>
      match skipBlanks rest with
      | ':' :: rest => some (name, rest)
      | _ => none
    | none => none
  | _ => none

mutual

/-- Takes a value. -/
def takeValue? : Nat → List Char → Option (Value × List Char)
  | 0, _ => none
  | fuel + 1, cs =>
    match skipBlanks cs with
    | 'n' :: 'u' :: 'l' :: 'l' :: rest => some (.null, rest)
    | 't' :: 'r' :: 'u' :: 'e' :: rest => some (.bool true, rest)
    | 'f' :: 'a' :: 'l' :: 's' :: 'e' :: rest => some (.bool false, rest)
    | '"' :: rest => (takeString? rest).map fun (written, rest) => (.string written, rest)
    | '[' :: rest =>
      match skipBlanks rest with
      | ']' :: rest => some (.array [], rest)
      | rest => (takeItems? fuel rest).map fun (items, rest) => (.array items, rest)
    | '\x7b' :: rest =>
      match skipBlanks rest with
      | '\x7d' :: rest => some (.object [], rest)
      | rest => (takeMembers? fuel rest).map fun (members, rest) => (.object members, rest)
    | rest => (takeNumber? rest).map fun (literal, rest) => (.number literal, rest)

/-- Takes the items of an array, at least one, and its closing bracket. -/
def takeItems? : Nat → List Char → Option (List Value × List Char)
  | 0, _ => none
  | fuel + 1, cs =>
    match takeValue? fuel cs with
    | none => none
    | some (item, rest) =>
      match skipBlanks rest with
      | ']' :: rest => some ([item], rest)
      | ',' :: rest => (takeItems? fuel rest).map fun (items, rest) => (item :: items, rest)
      | _ => none

/-- Takes the members of an object, at least one, and its closing brace. -/
def takeMembers? : Nat → List Char → Option (List (List Char × Value) × List Char)
  | 0, _ => none
  | fuel + 1, cs =>
    match takeName? cs with
    | none => none
    | some (name, rest) =>
      match takeValue? fuel rest with
      | none => none
      | some (value, rest) =>
        match skipBlanks rest with
        | '\x7d' :: rest => some ([(name, value)], rest)
        | ',' :: rest =>
          (takeMembers? fuel rest).map fun (members, rest) => ((name, value) :: members, rest)
        | _ => none

end

/-- The value that a whole text is. -/
def readText? (text : String) : Option Value :=
  let cs := text.toList
  match takeValue? (2 * cs.length + 1) cs with
  | some (value, rest) => if (skipBlanks rest).isEmpty then some value else none
  | none => none

end PartsCatalog.Json
