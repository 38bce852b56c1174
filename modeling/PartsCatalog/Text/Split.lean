/-!
# Splitting texts

A text cut at every occurrence of a separator.  There is always one part more than there are
separators.
-/

namespace PartsCatalog.Text

/-- The parts of a list of characters between the separators. -/
def splitChars (separator : Char) : List Char → List (List Char)
  | [] => [[]]
  | c :: rest =>
    if c = separator then [] :: splitChars separator rest
    else
      match splitChars separator rest with
      | [] => [[c]]
      | part :: parts => (c :: part) :: parts

/-- The parts of a text between the separators. -/
def split (separator : Char) (s : String) : List String :=
  (splitChars separator s.toList).map String.ofList

end PartsCatalog.Text
