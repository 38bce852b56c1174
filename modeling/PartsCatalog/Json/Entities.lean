import PartsCatalog.Attachment
import PartsCatalog.Json.Decoder
import PartsCatalog.Json.Writer
import PartsCatalog.Material

/-!
# Units, materials, products and files in JSON

Each of them is an object with its fields in a fixed order.  A quantity says what kind it is; of
whom files are is an object with one member.
-/

namespace PartsCatalog

open Json

/-! ## Writing -/

namespace MeasureUnit

/-- A unit in JSON. -/
def toJson (unit : MeasureUnit) : Value :=
  .ofFields [("id", .ofInt unit.id), ("name", .ofText unit.name)]

end MeasureUnit

namespace Quantity

/-- A quantity in JSON. -/
def toJson : Quantity → Value
  | numeric value => .ofFields [("kind", .ofText "numeric"), ("value", .ofBinary64 value)]
  | text words => .ofFields [("kind", .ofText "text"), ("value", .ofText words)]

end Quantity

mutual

/-- A material in JSON.  The entered quantity is left out where there is none. -/
def Material.toJson : Material → Value
  | ⟨id, names, primaryName, unit, description, quantity, quantityInput, products⟩ =>
    .ofFields <|
      [("id", .ofInt id), ("names", .ofList .ofText names), ("primary_name", .ofText primaryName),
        ("unit", unit.toJson), ("description", .ofText description),
        ("quantity", .ofOption Quantity.toJson quantity)]
      ++ (quantityInput.map fun raw => ("quantity_input", Value.ofText raw)).toList
      ++ [("products", .array (Product.listToJson products))]

/-- A product in JSON. -/
def Product.toJson : Product → Value
  | ⟨id, name, description, quantity, materials⟩ =>
    .ofFields
      [("id", .ofInt id), ("name", .ofText name), ("description", .ofText description),
        ("quantity", .ofOption Quantity.toJson quantity),
        ("materials", .array (Material.listToJson materials))]

/-- Materials in JSON. -/
def Material.listToJson : List Material → List Value
  | [] => []
  | material :: materials => material.toJson :: Material.listToJson materials

/-- Products in JSON. -/
def Product.listToJson : List Product → List Value
  | [] => []
  | product :: products => product.toJson :: Product.listToJson products

end

namespace Owner

/-- An owner of files in JSON. -/
def toJson : Owner → Value
  | material id => .ofFields [("Material", .ofInt id)]
  | product id => .ofFields [("Product", .ofInt id)]

end Owner

namespace File

/-- A file in JSON. -/
def toJson (f : File) : Value :=
  .ofFields
    [("id", .ofInt f.id), ("name", .ofText f.name), ("path", .ofText f.path),
      ("mime_type", .ofText f.mediaType), ("kind", .ofText f.kind.name),
      ("is_profile_picture", .bool f.isProfilePicture)]

end File

/-! ## Reading -/

namespace Json.Decoder

/-- A unit. -/
def unit : Decoder MeasureUnit
  | levels + 1, value => do
    let [id, name] ← fields? ["id", "name"] value | none
    return { id := ← id.required (Decoder.id levels), name := ← name.required (text levels) }
  | _, _ => none

/-- A quantity. -/
def quantity : Decoder Quantity
  | levels + 1, value => do
    let [kind, content] ← fields? ["kind", "value"] value | none
    let isNumeric ← kind.required (oneOf [("numeric", true), ("text", false)] levels)
    if isNumeric then
      return .numeric (← content.required (binary64 levels))
    else
      return .text (← content.required (text levels))
  | _, _ => none

mutual

/-- A material.  It holds lists, so it takes two levels. -/
def material : Nat → Value → Option Material
  | levels + 2, value => do
    let [id, names, primaryName, unit, description, quantity, quantityInput, products] ←
      fields? ["id", "names", "primary_name", "unit", "description", "quantity", "quantity_input",
        "products"] value | none
    return {
      id := ← id.required (Decoder.id (levels + 1))
      names := ← names.required (list text (levels + 1))
      primaryName := ← primaryName.required (text (levels + 1))
      unit := ← unit.required (Decoder.unit (levels + 1))
      description := ← description.required (text (levels + 1))
      quantity := ← quantity.optional (Decoder.quantity (levels + 1))
      quantityInput := ← quantityInput.orElse none (nullable text (levels + 1))
      products := ← products.required fun
        | .array items => items.mapM fun item => product levels item
        | _ => none }
  | _, _ => none

/-- A product.  It holds a list, so it takes two levels. -/
def product : Nat → Value → Option Product
  | levels + 2, value => do
    let [id, name, description, quantity, materials] ←
      fields? ["id", "name", "description", "quantity", "materials"] value | none
    return {
      id := ← id.required (Decoder.id (levels + 1))
      name := ← name.required (text (levels + 1))
      description := ← description.required (text (levels + 1))
      quantity := ← quantity.optional (Decoder.quantity (levels + 1))
      materials := ← materials.required fun
        | .array items => items.mapM fun item => material levels item
        | _ => none }
  | _, _ => none

end

/-- An owner of files. -/
def owner : Decoder Owner :=
  fun levels value =>
    match choice levels value with
    | some (.withValue "Material" levels value) => (Decoder.id levels value).map .material
    | some (.withValue "Product" levels value) => (Decoder.id levels value).map .product
    | _ => none

/-- A file. -/
def file : Decoder File
  | levels + 1, value => do
    let [id, name, path, mediaType, kind, isProfilePicture] ←
      fields? ["id", "name", "path", "mime_type", "kind", "is_profile_picture"] value | none
    return {
      id := ← id.required (Decoder.id levels)
      name := ← name.required (text levels)
      path := ← path.required (text levels)
      mediaType := ← mediaType.required (text levels)
      kind := ← kind.required
        (oneOf ([.image, .document].map fun kind => (FileKind.name kind, kind)) levels)
      isProfilePicture := ← isProfilePicture.required (flag levels) }
  | _, _ => none

/-- The files of an owner. -/
def attachments : Decoder Attachments
  | levels + 1, value => do
    let [owner, files] ← fields? ["owner", "files"] value | none
    return {
      owner := ← owner.required (Decoder.owner levels)
      files := ← files.required (list file levels) }
  | _, _ => none

end Json.Decoder

end PartsCatalog
