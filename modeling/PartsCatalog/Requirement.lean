import PartsCatalog.Decimal.Convert
import PartsCatalog.Material
import PartsCatalog.Table

/-!
# Requirements

What it takes to produce a number of pieces of a product: for every material how much in all, how
much beyond the stock, and how many pieces the stock of this material alone suffices for.

Numbers within reach of decimals are computed with as decimals, which is exact for what people
enter; larger ones as binary64 numbers.  Materials whose quantity is a remark, or whose total is no
number any more, are listed apart.
-/

namespace PartsCatalog

/-! ## Stock -/

/-- How much there is of each material; nothing of those that are not listed. -/
abbrev Stock := Table Binary64

namespace Stock

/-- The stock of a material. -/
def of (stock : Stock) (materialId : EntityId) : Binary64 := (stock.get? materialId).getD .zero

/-- The stock that a form field gives; what is no number, or below zero, counts as none. -/
def readAmount (raw : String) : Binary64 :=
  ((Quantity.parseNumber? raw).filter Binary64.zero.atMost).getD .zero

/-- The stock that form fields give.  The last field of a material counts. -/
def ofInputs (inputs : List (EntityId × String)) : Stock :=
  Table.ofPairs (inputs.map fun (id, raw) => (id, readAmount raw))

end Stock

/-! ## Figures -/

/-- The figures of one material. -/
structure Figures where
  total : Binary64
  additional : Binary64
  canProduce : Nat

namespace Figures

/-- Counts of pieces stop at the largest number of 64 bits. -/
def countMost : Nat := Nat.pow 2 64 - 1

/-- The figures computed as decimals, if they are within reach. -/
def ofDecimals? (perUnit : Binary64) (count : Nat) (stock : Binary64) : Option Figures := do
  let perUnit ← Decimal.ofBinary64? perUnit
  let stock ← Decimal.ofBinary64? stock
  let total ← perUnit.times? count
  let difference ← total.minus? stock
  let canProduce :=
    if perUnit.isPositive then
      match stock.over? perUnit with
      | some quotient => min countMost quotient.floor.toNat
      | none => countMost
    else 0
  return { total := total.toBinary64, additional := difference.clampBelow.toBinary64, canProduce }

/-- The figures computed as binary64 numbers, if the total is finite. -/
def ofBinary64? (perUnit : Binary64) (count : Nat) (stock : Binary64) : Option Figures :=
  let total := perUnit.mul (Binary64.ofNat count)
  if total.isFinite then
    some
      { total
        additional := (total.sub stock).clampBelow
        canProduce :=
          if Binary64.zero.less perUnit then ((stock.div perUnit).floor).toCount countMost else 0 }
  else none

/-- The figures of a material, if its total is a number. -/
def compute? (perUnit : Binary64) (count : Nat) (stock : Binary64) : Option Figures :=
  ofDecimals? perUnit count stock <|> ofBinary64? perUnit count stock

end Figures

/-! ## The report -/

/-- What is needed of one material. -/
structure Requirement where
  materialId : EntityId
  materialName : String
  unitName : String
  /-- The quantity of one piece as it was entered. -/
  perUnitInput : String
  perUnit : Binary64
  stock : Binary64
  figures : Figures

namespace Requirement

/-- The quantity of one piece as it was entered. -/
def perUnitDisplay (r : Requirement) : String := r.perUnitInput

/-- The quantity of all pieces. -/
def totalDisplay (r : Requirement) : String := Quantity.formatNumber r.figures.total

/-- The stock. -/
def stockDisplay (r : Requirement) : String := Quantity.formatNumber r.stock

/-- What the stock lacks. -/
def additionalDisplay (r : Requirement) : String := Quantity.formatNumber r.figures.additional

/-- Whether the stock lacks anything. -/
def isLacking (r : Requirement) : Bool := Binary64.zero.less r.figures.additional

/-- Whether the stock bounds the production: a piece takes some of the material. -/
def boundsProduction (r : Requirement) : Bool := Binary64.zero.less r.perUnit

end Requirement

/-- What it takes to produce `count` pieces of a product. -/
structure Report where
  productId : EntityId
  count : Nat
  calculable : List Requirement
  nonCalculable : List Material

namespace Report

/-- How many pieces the stock suffices for; unbounded if no material bounds the production. -/
def capacity? (r : Report) : Option Nat :=
  ((r.calculable.filter (·.boundsProduction)).map (·.figures.canProduce)).min?

/-- The materials that the stock lacks. -/
def lacking (r : Report) : List Requirement := r.calculable.filter (·.isLacking)

/-- Whether the stock lacks nothing. -/
def isCovered (r : Report) : Bool := r.lacking.isEmpty

end Report

/-- Whether a number can be a stock: it is finite and not below zero. -/
def Stock.isValidAmount (x : Binary64) : Bool := x.isFinite && !x.less .zero

/-- What is needed of a material, or nothing where its total is no number. -/
def Material.requirement? (m : Material) (perUnit : Binary64) (count : Nat) (stock : Stock) :
    Except Fault (Option Requirement) :=
  let available := stock.of m.id
  if Stock.isValidAmount available then
    .ok <| (Figures.compute? perUnit count available).map fun figures =>
      { materialId := m.id
        materialName := m.shownName
        unitName := m.unit.name
        perUnitInput := m.shownQuantity
        perUnit
        stock := available
        figures }
  else .error (.stockInvalid m.id available)

namespace Report

/-- The materials with a number, each with it. -/
def numericMaterials (materials : List Material) : List (Material × Binary64) :=
  materials.filterMap fun m => m.amount?.map fun value => (m, value)

/-- What it takes to produce `count` pieces from the given materials. -/
def ofMaterials (productId : EntityId) (materials : List Material) (count : Nat) (stock : Stock) :
    Except Fault Report := do
  if count = 0 then throw .nothingToProduce
  let assessed ← (numericMaterials materials).mapM fun (m, perUnit) => do
    return (m, ← m.requirement? perUnit count stock)
  return {
    productId
    count
    calculable := assessed.filterMap (·.2)
    nonCalculable :=
      materials.filter (·.amount?.isNone)
        ++ (assessed.filter (·.2.isNone)).map (·.1) }

/-- What it takes to produce `count` pieces of a product. -/
def ofProduct (p : Product) (count : Nat) (stock : Stock) : Except Fault Report :=
  ofMaterials p.id p.materials count stock

end Report

end PartsCatalog
