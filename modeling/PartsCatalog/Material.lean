import PartsCatalog.FieldCheck
import PartsCatalog.FirstOccurrence
import PartsCatalog.Quantity

/-!
# Materials and products

A product is made of materials, and a material knows the products that it goes into, so the two
types are defined together.  Either side shows the other with the quantity of that relation.

A material's names are different and not empty as long as they are added by the operations here, and
its primary name is one of them; a product's materials are different in the same way.
-/

namespace PartsCatalog

/-- A measuring unit. -/
structure MeasureUnit where
  id : EntityId
  name : String
deriving DecidableEq

mutual

/-- A material. -/
structure Material where
  id : EntityId
  /-- All names, in the order in which they were added. -/
  names : List String
  /-- The name to show first; empty when none is marked. -/
  primaryName : String
  unit : MeasureUnit
  description : String
  /-- How much of it one product takes, where it is seen from a product. -/
  quantity : Option Quantity
  /-- The quantity as it was entered, such as `2,5`. -/
  quantityInput : Option String
  /-- The products that it goes into. -/
  products : List Product

/-- A product, which is made of materials. -/
structure Product where
  id : EntityId
  name : String
  description : String
  /-- How much of a material it takes, where it is seen from a material. -/
  quantity : Option Quantity
  /-- What it is made of, with the quantity that one product takes. -/
  materials : List Material

end

/-! ## Materials -/

namespace Material

/-- A material with nothing but an identifier and a unit. -/
def new (id : EntityId) (unit : MeasureUnit) : Material :=
  { id, names := [], primaryName := "", unit, description := "", quantity := none
    quantityInput := none, products := [] }

instance : Inhabited Material := ⟨new 0 { id := 0, name := "" }⟩

/-- The material with another description. -/
def withDescription (m : Material) (description : String) : Material := { m with description }

/-- The material with another quantity, which has no entered form. -/
def withQuantity (m : Material) (quantity : Option Quantity) : Material :=
  { m with quantity, quantityInput := none }

/-- The material with the quantity of a form field, and the field's text beside it. -/
def enterQuantity (m : Material) (raw : String) : Material :=
  let quantity := Quantity.ofInput? raw
  { m with quantity, quantityInput := quantity.map fun _ => Text.trim raw }

/-- Whether a name can be added: it is not empty and not there yet. -/
def lacksName (m : Material) (name : String) : Bool := !name.isEmpty && !m.names.contains name

/-- The material with one more name, if it can be added. -/
def addName (m : Material) (name : String) : Material :=
  if m.lacksName name then { m with names := m.names ++ [name] } else m

/-- The material with a name added and marked as the primary one. -/
def markPrimary (m : Material) (name : String) : Material :=
  { m.addName name with primaryName := name }

/-- The different names among `names`, followed by the primary name if it is not among them. -/
def collectNames (primaryName : String) (names : List String) : List String :=
  let all := firstOccurrences (names.filter (!·.isEmpty))
  if primaryName.isEmpty then all else appendNew all primaryName

/-- The material with all its names replaced, if the new ones are proper. -/
def setNames (m : Material) (primaryName : String) (names : List String) :
    Except Fault Material := do
  let names := collectNames primaryName names
  FieldCheck.names names
  return { m with names, primaryName }

/-- The material that a form describes. -/
def ofInput (primaryName : String) (names : List String) (unit : MeasureUnit)
    (description : String) : Except Fault Material :=
  ((new 0 unit).withDescription description).setNames primaryName names

/-- Whether a primary name is marked. -/
def hasPrimaryName (m : Material) : Bool := !m.primaryName.isEmpty

/-- The primary name, or the first name where none is marked. -/
def shownName (m : Material) : String :=
  if m.hasPrimaryName then m.primaryName else m.names.headD ""

/-- Whether a product is not yet among the products of a material. -/
def lacksProduct (m : Material) (product : Product) : Bool :=
  !m.products.any (·.id == product.id)

/-- The material with one more product, unless a product of that identifier is there. -/
def addProduct (m : Material) (product : Product) : Material :=
  if m.lacksProduct product then { m with products := m.products ++ [product] } else m

/-- Whether a material goes into one of the given products. -/
def goesIntoAny (m : Material) (productIds : List EntityId) : Bool :=
  m.products.any (productIds.contains ·.id)

/-- The number of a material's quantity, if it has one. -/
def amount? (m : Material) : Option Binary64 := m.quantity.bind Quantity.value?

/-- The quantity as it was entered, or else as lists show it. -/
def shownQuantity (m : Material) : String :=
  match m.quantity, m.quantityInput with
  | some _, some raw => raw
  | some quantity, none => quantity.display
  | none, _ => ""

end Material

/-! ## Products -/

namespace Product

/-- A product with nothing but an identifier and a name. -/
def new (id : EntityId) (name : String) : Product :=
  { id, name, description := "", quantity := none, materials := [] }

instance : Inhabited Product := ⟨new 0 ""⟩

/-- The product with another description. -/
def withDescription (p : Product) (description : String) : Product := { p with description }

/-- The product with another quantity. -/
def withQuantity (p : Product) (quantity : Option Quantity) : Product := { p with quantity }

/-- The product that a form describes. -/
def ofInput (name description : String) : Except Fault Product := do
  FieldCheck.required "產品名稱" name
  FieldCheck.description description
  return (new 0 name).withDescription description

/-- The material of a product with the given identifier. -/
def material? (p : Product) (id : EntityId) : Option Material := p.materials.find? (·.id == id)

/-- The product with a material set: in its place where it was there, and at the end otherwise. -/
def setMaterial (p : Product) (m : Material) : Product :=
  { p with materials := updateOrAppend Material.id m.id (fun _ => m) m p.materials }

/-- The product without the material of the given identifier. -/
def removeMaterial (p : Product) (id : EntityId) : Product :=
  { p with materials := removeFirst Material.id id p.materials }

/-- Whether a product takes one of the given materials. -/
def takesAny (p : Product) (materialIds : List EntityId) : Bool :=
  p.materials.any (materialIds.contains ·.id)

end Product

end PartsCatalog
