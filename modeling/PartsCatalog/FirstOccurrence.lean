/-!
# First occurrences

Lists in which every key stands once, at the place where it first came.  Names, products and grouped
rows are all collected in this way.
-/

namespace PartsCatalog

/-- Adds an element at the end, unless it is already there. -/
def appendNew {α : Type} [BEq α] (xs : List α) (x : α) : List α :=
  if xs.contains x then xs else xs ++ [x]

/-- The different elements of a list, in the order in which they first come. -/
def firstOccurrences {α : Type} [BEq α] (xs : List α) : List α := xs.foldl appendNew []

/-- Changes the first element with the key `k`; if there is none, `fresh` is added at the end. -/
def updateOrAppend {α κ : Type} [BEq κ] (key : α → κ) (k : κ) (change : α → α) (fresh : α) :
    List α → List α
  | [] => [fresh]
  | x :: xs =>
    if key x == k then change x :: xs else x :: updateOrAppend key k change fresh xs

/-- Removes the first element with the key `k`. -/
def removeFirst {α κ : Type} [BEq κ] (key : α → κ) (k : κ) : List α → List α
  | [] => []
  | x :: xs => if key x == k then xs else x :: removeFirst key k xs

end PartsCatalog
