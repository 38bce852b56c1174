import PartsCatalog.Filter

/-!
# Search

One query over materials and products: the names and descriptions of both.  Results stay in order,
and of each kind only so many are shown.
-/

namespace PartsCatalog

/-- What a search finds. -/
structure Findings where
  materials : List Material
  products : List Product

namespace Findings

/-- How many results there are. -/
def size (r : Findings) : Nat := r.materials.length + r.products.length

/-- Whether nothing was found. -/
def isEmpty (r : Findings) : Bool := r.materials.isEmpty && r.products.isEmpty

end Findings

/-- Whether the name or the description of a product holds a lower-case needle. -/
def Product.holdsWords (p : Product) (needle : String) : Bool :=
  Text.holdsWords needle p.name || Text.holdsWords needle p.description

namespace Search

/-- The limit that a form field gives: a positive number of 64 bits, and the usual one otherwise. -/
def readLimit (raw : String) : Nat :=
  match Text.readUnsigned? (Text.trim raw).toList with
  | some limit => if 0 < limit ∧ limit < Nat.pow 2 64 then limit else Limits.searchDefault
  | none => Limits.searchDefault

/-- The first `limit` entries that a query finds; a blank query finds none. -/
def select {α : Type} (holdsWords : α → String → Bool) (query : String) (limit : Nat)
    (entries : List α) : List α :=
  match Text.queryWords? query with
  | some needle => (entries.filter (holdsWords · needle)).take limit
  | none => []

/-- The first `limit` materials that a query finds. -/
def materials (query : String) (limit : Nat) (entries : List Material) : List Material :=
  select Material.holdsWords query limit entries

/-- The first `limit` products that a query finds. -/
def products (query : String) (limit : Nat) (entries : List Product) : List Product :=
  select Product.holdsWords query limit entries

/-- The materials and products that a query finds. -/
def run (query : String) (limit : Nat) (ms : List Material) (ps : List Product) : Findings :=
  { materials := materials query limit ms, products := products query limit ps }

end Search

end PartsCatalog
