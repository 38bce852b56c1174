import PartsCatalog.Text.Numeral

/-!
# Identifiers

Everything in the catalog is known by an integer of 64 bits.
-/

namespace PartsCatalog

/-- The number by which a unit, material, product or file is known. -/
abbrev EntityId := Int

/-- The smallest identifier. -/
def EntityId.least : Int := -Nat.pow 2 63

/-- The largest identifier. -/
def EntityId.greatest : Int := Nat.pow 2 63 - 1

/-- Whether an integer has 64 bits. -/
def EntityId.inRange (n : Int) : Bool := EntityId.least ≤ n && n ≤ EntityId.greatest

/-- The identifier that a text denotes: digits with an optional sign and nothing else. -/
def EntityId.ofText? (s : String) : Option EntityId :=
  (Text.readSigned? s.toList).filter EntityId.inRange

end PartsCatalog
