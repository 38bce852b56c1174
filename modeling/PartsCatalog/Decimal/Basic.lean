import PartsCatalog.Rounding
import PartsCatalog.Text.Numeral

/-!
# Decimal numbers

The database's exact numbers: a coefficient of at most 96 bits over a power of ten of at most 28.
Operations compute exactly and keep as many places as fit (`ofScaled?`); when even the whole part
does not fit there is no result.
-/

namespace PartsCatalog

/-- The largest number of places behind the point. -/
def Decimal.maxScale : Nat := 28

/-- The bound that coefficients stay below. -/
def Decimal.coefficientBound : Nat := Nat.pow 2 96

/-- The number `coefficient · 10 ^ -scale`.  Trailing zeros are kept: they are part of the text. -/
structure Decimal where
  coefficient : Int
  scale : Nat
  coefficient_lt : coefficient.natAbs < Decimal.coefficientBound
  scale_le : scale ≤ Decimal.maxScale
deriving DecidableEq

namespace Decimal

/-- A decimal from its parts, if they are in range. -/
def ofParts? (coefficient : Int) (scale : Nat) : Option Decimal :=
  if h : coefficient.natAbs < coefficientBound ∧ scale ≤ maxScale then
    some { coefficient, scale, coefficient_lt := h.1, scale_le := h.2 }
  else none

/-- Zero without places. -/
def zero : Decimal :=
  { coefficient := 0, scale := 0, coefficient_lt := by decide, scale_le := by decide }

instance : Inhabited Decimal := ⟨zero⟩

/-- A natural number as a coefficient under a sign. -/
def signed (negative : Bool) (n : Nat) : Int := if negative then -(n : Int) else n

/-- The decimal nearest to `± num / den` with the most places, at most `places`, that fit. -/
def ofQuotient? (negative : Bool) (num den places : Nat) : Option Decimal :=
  (List.range (places + 1)).findSome? fun dropped =>
    let scale := places - dropped
    ofParts? (signed negative (roundQuotient .toEven (num * Nat.pow 10 scale) den)) scale

/-- The decimal nearest to `coefficient · 10 ^ -scale` with the most places that fit. -/
def ofScaled? (coefficient : Int) (scale : Nat) : Option Decimal :=
  ofQuotient? (coefficient < 0) coefficient.natAbs (Nat.pow 10 scale) (min scale maxScale)

/-! ## Comparing -/

/-- Whether a decimal is above zero. -/
def isPositive (d : Decimal) : Bool := 0 < d.coefficient

/-- The whole number that a decimal equals, if it has no fractional part. -/
def whole? (d : Decimal) : Option Int :=
  if d.coefficient % Nat.pow 10 d.scale = 0 then some (d.coefficient / Nat.pow 10 d.scale)
  else none

/-- The largest whole number that does not exceed a decimal. -/
def floor (d : Decimal) : Int := d.coefficient / Nat.pow 10 d.scale

/-! ## Arithmetic -/

/-- The product with a natural number. -/
def times? (d : Decimal) (n : Nat) : Option Decimal := ofScaled? (d.coefficient * n) d.scale

/-- The difference. -/
def minus? (d e : Decimal) : Option Decimal :=
  let scale := max d.scale e.scale
  let aligned (x : Decimal) : Int := x.coefficient * Nat.pow 10 (scale - x.scale)
  ofScaled? (aligned d - aligned e) scale

/-- The quotient; there is none for a zero divisor. -/
def over? (d e : Decimal) : Option Decimal :=
  if e.coefficient = 0 then none
  else
    ofQuotient? (decide (d.coefficient < 0) ^^ decide (e.coefficient < 0))
      (d.coefficient.natAbs * Nat.pow 10 e.scale) (e.coefficient.natAbs * Nat.pow 10 d.scale)
      maxScale

/-- A decimal, or zero where it is below zero. -/
def clampBelow (d : Decimal) : Decimal := if d.isPositive then d else zero

/-- Gives up the places of a mantissa that are zero. -/
def dropZeros : (places mantissa : Nat) → Nat × Nat
  | 0, mantissa => (mantissa, 0)
  | places + 1, mantissa =>
    if mantissa % 10 = 0 then dropZeros places (mantissa / 10) else (mantissa, places + 1)

/-- A decimal without the zeros at the end of its places. -/
def normalize (d : Decimal) : Decimal :=
  let (mantissa, places) := dropZeros d.scale d.coefficient.natAbs
  (ofParts? (signed (d.coefficient < 0) mantissa) places).getD d

/-! ## Text -/

/-- A decimal with all its places. -/
def text (d : Decimal) : String :=
  let magnitude := d.coefficient.natAbs
  let sign := if d.coefficient < 0 then ['-'] else []
  let places :=
    if d.scale = 0 then [] else '.' :: Text.paddedDigits d.scale (magnitude % Nat.pow 10 d.scale)
  String.ofList (sign ++ Nat.toDigits 10 (magnitude / Nat.pow 10 d.scale) ++ places)

end Decimal

end PartsCatalog
