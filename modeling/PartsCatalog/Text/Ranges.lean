/-!
# Ranges of characters

A property of characters, given as a list of inclusive ranges of code points.
-/

namespace PartsCatalog.Text

/-- Inclusive ranges of code points. -/
abbrev Ranges := List (Nat × Nat)

/-- Whether a character lies in one of the ranges. -/
def Ranges.holds (ranges : Ranges) (c : Char) : Bool :=
  ranges.any fun range => range.1 ≤ c.toNat && c.toNat ≤ range.2

end PartsCatalog.Text
