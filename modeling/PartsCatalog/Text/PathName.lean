import PartsCatalog.Text.Split

/-!
# Path names

Path names as texts: components between slashes, where empty components and single dots count for
nothing except in front.
-/

namespace PartsCatalog.Text

/-- The components of a path that name something. -/
def pathComponents (path : List Char) : List (List Char) :=
  (splitChars '/' path).filter fun part => part != [] && part != ['.']

/-- What stands behind the last point of a file name, where something stands before that point. -/
def nameExtension? (name : List Char) : Option (List Char) :=
  let behind := name.reverse.takeWhile (· != '.')
  if name == ['.', '.'] || name.length ≤ behind.length + 1 then none else some behind.reverse

/-- The extension of the file that a path names. -/
def pathExtension? (path : String) : Option String :=
  ((pathComponents path.toList).getLast?.bind nameExtension?).map String.ofList

/-- A path below another; a path from the root stands for itself. -/
def joinPath (base path : String) : String :=
  if path.startsWith "/" then path
  else if base.isEmpty || base.endsWith "/" then base ++ path
  else base ++ "/" ++ path

end PartsCatalog.Text
