import PartsCatalog.Decimal.Reader
import PartsCatalog.Json.Decoder
import PartsCatalog.Json.Writer
import PartsCatalog.Row

/-!
# Rows in JSON

A cell names its type; a decimal is written as a text, so that it keeps its trailing zeros, and may
be read from a number as well.
-/

namespace PartsCatalog

open Json

/-! ## Writing -/

namespace Cell

/-- A cell in JSON. -/
def toJson : Cell → Value
  | null => .ofText "Null"
  | integer value => .ofFields [("Integer", .ofInt value)]
  | real value => .ofFields [("Real", .ofBinary64 value)]
  | decimal value => .ofFields [("Decimal", .ofText value.text)]
  | text value => .ofFields [("Text", .ofText value)]

end Cell

namespace MaterialRow

/-- A row of the list of materials in JSON. -/
def toJson (row : MaterialRow) : Value :=
  .ofFields
    [("material_id", .ofInt row.materialId), ("unit_id", .ofInt row.unitId),
      ("unit_name", .ofText row.unitName), ("description", .ofOption .ofText row.description),
      ("name", .ofOption .ofText row.name), ("is_primary", .bool row.isPrimary),
      ("product_id", row.productId.toJson), ("product_name", .ofOption .ofText row.productName),
      ("quantity", row.quantity.toJson), ("quantity_text", .ofOption .ofText row.quantityText)]

end MaterialRow

namespace ProductRow

/-- A row of the list of products in JSON. -/
def toJson (row : ProductRow) : Value :=
  .ofFields
    [("product_id", .ofInt row.productId), ("name", .ofText row.name),
      ("description", .ofOption .ofText row.description), ("material_id", row.materialId.toJson),
      ("material_name", .ofOption .ofText row.materialName), ("unit_id", row.unitId.toJson),
      ("unit_name", .ofOption .ofText row.unitName), ("quantity", row.quantity.toJson),
      ("quantity_text", .ofOption .ofText row.quantityText)]

end ProductRow

/-! ## Reading -/

namespace Json.Decoder

/-- The decimal that a numeral denotes: an integer of 64 bits as it is, and every other number by
way of binary64. -/
def decimalOfNumeral? (n : Numeral) : Option Decimal :=
  match n.integer?.filter fun value => EntityId.least ≤ value && value < Nat.pow 2 64 with
  | some value => Decimal.ofParts? value 0
  | none => n.binary64?.bind fun x => Decimal.ofPlainChars? x.text.toList

/-- A decimal. -/
def decimal : Decoder Decimal
  | _, .number literal => decimalOfNumeral? (.ofLiteral literal)
  | _, .string written => (unescape? written).bind Decimal.ofText?
  | _, _ => none

/-- A cell. -/
def cell : Decoder Cell :=
  fun levels value =>
    match choice levels value with
    | some (.plain "Null") | some (.withValue "Null" _ .null) => some .null
    | some (.withValue "Integer" levels value) => (Decoder.id levels value).map .integer
    | some (.withValue "Real" levels value) => (binary64 levels value).map .real
    | some (.withValue "Decimal" levels value) => (decimal levels value).map .decimal
    | some (.withValue "Text" levels value) => (text levels value).map .text
    | _ => none

/-- A row of the list of materials. -/
def materialRow : Decoder MaterialRow
  | levels + 1, value => do
    let [materialId, unitId, unitName, description, name, isPrimary, productId, productName,
        quantity, quantityText] ←
      fields? ["material_id", "unit_id", "unit_name", "description", "name", "is_primary",
        "product_id", "product_name", "quantity", "quantity_text"] value | none
    return {
      materialId := ← materialId.required (Decoder.id levels)
      unitId := ← unitId.required (Decoder.id levels)
      unitName := ← unitName.required (text levels)
      description := ← description.optional (text levels)
      name := ← name.optional (text levels)
      isPrimary := ← isPrimary.required (flag levels)
      productId := ← productId.required (cell levels)
      productName := ← productName.optional (text levels)
      quantity := ← quantity.required (cell levels)
      quantityText := ← quantityText.optional (text levels) }
  | _, _ => none

/-- A row of the list of products. -/
def productRow : Decoder ProductRow
  | levels + 1, value => do
    let [productId, name, description, materialId, materialName, unitId, unitName, quantity,
        quantityText] ←
      fields? ["product_id", "name", "description", "material_id", "material_name", "unit_id",
        "unit_name", "quantity", "quantity_text"] value | none
    return {
      productId := ← productId.required (Decoder.id levels)
      name := ← name.required (text levels)
      description := ← description.optional (text levels)
      materialId := ← materialId.required (cell levels)
      materialName := ← materialName.optional (text levels)
      unitId := ← unitId.required (cell levels)
      unitName := ← unitName.optional (text levels)
      quantity := ← quantity.required (cell levels)
      quantityText := ← quantityText.optional (text levels) }
  | _, _ => none

end Json.Decoder

end PartsCatalog
