import PartsCatalog.Binary64.Reader
import PartsCatalog.Binary64.Text

/-!
# Numbers in JSON

How numbers are written and what a written number means.  Where an integer is expected only a
numeral without places and exponent will do.  Where a binary64 number is expected its first digits,
as many as 64 bits hold, are scaled by a power of ten in one step, or in a few where the power is
out of range; each step rounds, so the result may differ from the nearest number in its last place.
-/

namespace PartsCatalog.Json

open PartsCatalog.Text

/-! ## Finding the end -/

/-- Splits off at least one digit. -/
def takeDigits? (cs : List Char) : Option (List Char × List Char) :=
  let (digits, rest) := cs.span Char.isDigit
  if digits.isEmpty then none else some (digits, rest)

/-- Splits off the digits before the point: a zero alone, or digits that start with another one. -/
def takeWhole? : List Char → Option (List Char × List Char)
  | '0' :: rest => some (['0'], rest)
  | cs => takeDigits? cs

/-- Splits off the point and the places behind it, if there is one. -/
def takePlaces? : List Char → Option (List Char × List Char)
  | '.' :: rest => (takeDigits? rest).map fun (digits, rest) => ('.' :: digits, rest)
  | rest => some ([], rest)

/-- Splits off the sign of an exponent, if there is one. -/
def takeSign : List Char → List Char × List Char
  | '+' :: rest => (['+'], rest)
  | '-' :: rest => (['-'], rest)
  | rest => ([], rest)

/-- Splits off the exponent, if there is one. -/
def takeExponent? : List Char → Option (List Char × List Char)
  | [] => some ([], [])
  | c :: rest =>
    if c = 'e' ∨ c = 'E' then
      let (sign, rest) := takeSign rest
      (takeDigits? rest).map fun (digits, rest) => (c :: sign ++ digits, rest)
    else some ([], c :: rest)

/-- Splits a text into the number that it starts with and the rest. -/
def takeNumber? (cs : List Char) : Option (List Char × List Char) := do
  let (sign, rest) :=
    match cs with
    | '-' :: rest => (['-'], rest)
    | rest => ([], rest)
  let (whole, rest) ← takeWhole? rest
  let (places, rest) ← takePlaces? rest
  let (exponent, rest) ← takeExponent? rest
  return (sign ++ whole ++ places ++ exponent, rest)

/-! ## Meaning -/

/-- The parts of a written number. -/
structure Numeral where
  negative : Bool
  whole : List Char
  places : List Char
  exponent : Option Int
deriving DecidableEq

namespace Numeral

/-- The parts of a number as it is written. -/
def ofLiteral (literal : List Char) : Numeral :=
  let (negative, body) := Binary64.splitSign literal
  let (whole, rest) := body.span Char.isDigit
  let (places, rest) := Binary64.splitPlaces rest
  { negative, whole, places
    exponent :=
      match rest with
      | [] => none
      | _ :: exponent => readSigned? exponent }

/-- The integer that is written, if it is written as one; a negative zero is not. -/
def integer? (n : Numeral) : Option Int :=
  let magnitude := Nat.ofDigitChars 10 n.whole 0
  if n.places.isEmpty && n.exponent.isNone && !(n.negative && magnitude == 0) then
    some (Binary64.signed n.negative magnitude)
  else none

/-- The number of significands that 64 bits hold. -/
def significandBound : Nat := Nat.pow 2 64

/-- Takes digits behind a significand until the next one would not fit, and says how many. -/
def takeSignificant (significand : Nat) : List Char → Nat × Nat
  | [] => (significand, 0)
  | c :: rest =>
    let longer := significand * 10 + (c.toNat - '0'.toNat)
    if longer < significandBound then
      let (result, taken) := takeSignificant longer rest
      (result, taken + 1)
    else (significand, 0)

/-- The largest power of ten in range. -/
def powerMost : Nat := 308

/-- A number times a power of ten, if it is in range.  A power below the range is taken in steps. -/
def scale? (x : Binary64) (exponent : Int) : Option Binary64 :=
  if exponent.natAbs ≤ powerMost then
    let power := Binary64.ofNat (Nat.pow 10 exponent.natAbs)
    if 0 ≤ exponent then some (x.mul power) |>.filter Binary64.isFinite else some (x.div power)
  else if x.same .zero then some x
  else if 0 ≤ exponent then none
  else scale? (x.div (Binary64.ofNat (Nat.pow 10 powerMost))) (exponent + powerMost)
termination_by exponent.natAbs
decreasing_by simp only [powerMost] at *; omega

/-- The binary64 number that is written, if it is in range. -/
def binary64? (n : Numeral) : Option Binary64 :=
  let (significand, wholeTaken) := takeSignificant 0 n.whole
  let (significand, placesTaken) := takeSignificant significand n.places
  let exponent : Int := (n.whole.length - wholeTaken : Nat) - placesTaken + n.exponent.getD 0
  (scale? (Binary64.ofNat significand) exponent).map fun x => if n.negative then x.neg else x

end Numeral

/-! ## Writing -/

/-- Numbers have a point from `10 ^ -5` to below `10 ^ 16` and a signed exponent elsewhere, and
whole numbers end in `.0`. -/
def numberStyle : Binary64.NumberStyle :=
  { positional := fun e => -5 ≤ e && e ≤ 15, marksWhole := true, exponentPlus := ['+']
    tie := .toEven }

end PartsCatalog.Json
