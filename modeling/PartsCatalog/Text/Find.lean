import PartsCatalog.Text.Blank
import PartsCatalog.Text.Lowercase

/-!
# Finding words in texts

A query finds a text when it occurs in it, with no regard to upper and lower case.  The query is
trimmed first, and a blank one asks for nothing.
-/

namespace PartsCatalog.Text

/-- Whether `needle` occurs in a list of characters. -/
def occursIn (needle : List Char) : List Char → Bool
  | [] => needle.isEmpty
  | c :: cs => needle.isPrefixOf (c :: cs) || occursIn needle cs

/-- Whether a text holds a lower-case needle, with no regard to case. -/
def holdsWords (needle s : String) : Bool := occursIn needle.toList (lowercase s).toList

/-- What a query looks for: its trimmed lower-case form, or nothing if it is blank. -/
def queryWords? (query : String) : Option String :=
  let trimmed := trim query
  if trimmed.isEmpty then none else some (lowercase trimmed)

end PartsCatalog.Text
