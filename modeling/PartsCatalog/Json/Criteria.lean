import PartsCatalog.Filter
import PartsCatalog.Json.Decoder
import PartsCatalog.Json.Writer
import PartsCatalog.LogLevel
import PartsCatalog.Sorting

/-!
# Filters, sortings and log levels in JSON

What is asked of a list, and how much is reported.
-/

namespace PartsCatalog

open Json

/-! ## Writing -/

namespace Bounds

/-- A range of quantities in JSON. -/
def toJson (range : Bounds) : Value :=
  .ofFields
    [("min", .ofOption .ofBinary64 range.least?), ("max", .ofOption .ofBinary64 range.most?)]

end Bounds

namespace MaterialFilter

/-- A filter of materials in JSON. -/
def toJson (f : MaterialFilter) : Value :=
  .ofFields
    [("query", .ofOption .ofText f.query), ("primary_only", .bool f.primaryOnly),
      ("product_ids", .ofList .ofInt f.productIds), ("unit_ids", .ofList .ofInt f.unitIds),
      ("quantity_range", .ofOption Bounds.toJson f.range)]

end MaterialFilter

namespace ProductFilter

/-- A filter of products in JSON. -/
def toJson (f : ProductFilter) : Value :=
  .ofFields
    [("name_contains", .ofOption .ofText f.nameContains),
      ("material_ids", .ofList .ofInt f.materialIds)]

end ProductFilter

namespace Sorting

/-- A sorting in JSON. -/
def toJson (c : Sorting) : Value :=
  .ofFields [("field", .ofText c.field.label), ("order", .ofText c.direction.label)]

end Sorting

namespace LogLevel

/-- A log level in JSON. -/
def toJson (level : LogLevel) : Value := .ofText level.name

end LogLevel

/-! ## Reading -/

namespace Json.Decoder

/-- The field of a sorting. -/
def sortingField : Decoder Sorting.Field :=
  oneOf ([.name, .unit, .quantity, .id].map fun field => (Sorting.Field.label field, field))

/-- The direction of a sorting. -/
def sortingDirection : Decoder Sorting.Direction :=
  oneOf <|
    [.ascending, .descending].map fun direction => (Sorting.Direction.label direction, direction)

/-- A sorting. -/
def sorting : Decoder Sorting
  | levels + 1, value => do
    let [field, order] ← fields? ["field", "order"] value | none
    return {
      field := ← field.required (sortingField levels)
      direction := ← order.required (sortingDirection levels) }
  | _, _ => none

/-- A log level. -/
def logLevel : Decoder LogLevel :=
  oneOf ([.debug, .info, .warn, .error].map fun level => (LogLevel.name level, level))

end Json.Decoder

end PartsCatalog
