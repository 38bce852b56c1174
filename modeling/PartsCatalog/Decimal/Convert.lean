import PartsCatalog.Binary64.Arithmetic
import PartsCatalog.Decimal.Basic

/-!
# Between decimal and binary64

A binary64 number becomes a decimal by trading its factors of two for factors of ten inside 96 bits,
and then giving up places until no more than the digits that a binary64 number carries are left.
Back again, the whole part and the places are converted apart and the sum is rounded to the places.
-/

namespace PartsCatalog.Decimal

/-! ## From binary64 -/

/-- Turns `mantissa · 2 ^ -halvings` into a mantissa and a count of places.  A halving of an odd
mantissa is a multiplication by five and one more place; where that no longer fits, the last bit is
dropped instead. -/
def tradeHalvings : (halvings mantissa : Nat) → (places : Nat) → Nat × Nat
  | 0, mantissa, places => (mantissa, places)
  | halvings + 1, mantissa, places =>
    if mantissa % 2 = 1 ∧ 5 * mantissa < coefficientBound then
      tradeHalvings halvings (5 * mantissa) (places + 1)
    else tradeHalvings halvings (mantissa / 2) places

/-- Turns `mantissa · 2 ^ doublings` into a mantissa and a count of factors of ten.  A doubling that
no longer fits is a division by five and one more factor of ten. -/
def tradeDoublings : (doublings mantissa : Nat) → (tens : Nat) → Nat × Nat
  | 0, mantissa, tens => (mantissa, tens)
  | doublings + 1, mantissa, tens =>
    if 2 * mantissa < coefficientBound then tradeDoublings doublings (2 * mantissa) tens
    else tradeDoublings doublings (mantissa / 5) (tens + 1)

/-- Gives up `count` places, each with a half going up; a mantissa below ten is lost. -/
def dropPlaces : (count mantissa : Nat) → Nat
  | 0, mantissa => mantissa
  | count + 1, mantissa =>
    if mantissa < 10 then 0 else dropPlaces count (roundQuotient .up mantissa 10)

/-- Gives up places while there are some and the mantissa has more than 52 bits. -/
def dropExcess : (places mantissa : Nat) → Nat × Nat
  | 0, mantissa => (mantissa, 0)
  | places + 1, mantissa =>
    if mantissa < Nat.pow 2 52 then (mantissa, places + 1)
    else dropExcess places (roundQuotient .up mantissa 10)

/-- The decimal of `± mantissa · 2 ^ -halvings`. -/
def ofHalvings? (negative : Bool) (halvings mantissa : Nat) : Option Decimal :=
  let (mantissa, places) := tradeHalvings halvings mantissa 0
  let mantissa := dropPlaces (places - maxScale) mantissa
  let (mantissa, places) := dropExcess (min places maxScale) mantissa
  let (mantissa, places) := dropZeros places mantissa
  ofParts? (signed negative mantissa) places

/-- The decimal of `± mantissa · 2 ^ doublings`. -/
def ofDoublings? (negative : Bool) (doublings mantissa : Nat) : Option Decimal :=
  let (mantissa, tens) := tradeDoublings doublings mantissa 0
  ofParts? (signed negative (mantissa * Nat.pow 10 tens)) 0

/-- The decimal near a binary64 number; there is none past the range of decimals. -/
def ofBinary64? : Binary64 → Option Decimal
  | .nan => none
  | .infinite _ => none
  | .finite negative rank =>
    let exponent := rank.val / Nat.pow 2 52
    let fraction := rank.val % Nat.pow 2 52
    if exponent = 0 then ofHalvings? negative 1074 fraction
    else if exponent ≤ 1075 then ofHalvings? negative (1075 - exponent) (Nat.pow 2 52 + fraction)
    else ofDoublings? negative (exponent - 1075) (Nat.pow 2 52 + fraction)

/-! ## To binary64 -/

/-- The binary64 number near a decimal's magnitude. -/
def magnitudeToBinary64 (d : Decimal) : Binary64 :=
  let power := Nat.pow 10 d.scale
  let whole := Binary64.ofNat (d.coefficient.natAbs / power)
  let places := d.coefficient.natAbs % power
  if d.scale = 0 || places = 0 then whole
  else
    let power := Binary64.ofNat power
    (((whole.add ((Binary64.ofNat places).div power)).mul power).round).div power

/-- The binary64 number near a decimal. -/
def toBinary64 (d : Decimal) : Binary64 :=
  if d.coefficient < 0 then d.magnitudeToBinary64.neg else d.magnitudeToBinary64

end PartsCatalog.Decimal
