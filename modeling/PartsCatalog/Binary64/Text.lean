import PartsCatalog.Binary64.Basic
import PartsCatalog.Rounding
import PartsCatalog.Text.Numeral

/-!
# Binary64 numbers as text

Two ways to write a finite number in decimal.  `fixed` gives the exact value rounded to a number of
places.  `shortest` gives the fewest digits that read back as the same number and, of the texts with
so many digits, the one nearest to it; a `NumberStyle` then says where the point goes.
-/

namespace PartsCatalog.Binary64

open PartsCatalog.Text

/-- The minus sign of a negative number. -/
def signText (negative : Bool) : List Char := if negative then ['-'] else []

/-- Writes the special values, and leaves the finite ones to `finiteText`. -/
def textWith (finiteText : Bool → Fin magnitudeCount → List Char) : Binary64 → String
  | nan => "NaN"
  | infinite negative => String.ofList (signText negative ++ ['i', 'n', 'f'])
  | finite negative rank => String.ofList (signText negative ++ finiteText negative rank)

/-- A number with exactly `places` places behind the point, a half going to the even neighbour. -/
def fixed (places : Nat) : Binary64 → String :=
  textWith fun _ rank =>
    let scaled := roundQuotient .toEven (units rank * Nat.pow 10 places) unitsPerOne
    let whole := Nat.toDigits 10 (scaled / Nat.pow 10 places)
    whole ++ '.' :: paddedDigits places (scaled % Nat.pow 10 places)

/-! ## The shortest digits -/

/-- Significant digits with the place of the point: the value is `0.d₁d₂… · 10 ^ pointAt`. -/
structure Digits where
  digits : List Char
  pointAt : Int
deriving DecidableEq

/-- All values below are multiples of `10⁻³⁴¹`, so that every grid with up to seventeen digits has
whole steps. -/
def gridPlaces : Nat := 341

/-- The interval of values that read back as the magnitude of rank `rank`.  A value is given by its
numerator over `2 * unitsPerOne * 10 ^ gridPlaces`; the ends belong to the even ranks. -/
def readsBack (rank value : Nat) : Bool :=
  let low := (units (rank - 1) + units rank) * Nat.pow 10 gridPlaces
  let high := (units rank + units (rank + 1)) * Nat.pow 10 gridPlaces
  if rank % 2 = 0 then low ≤ value && value ≤ high else low < value && value < high

/-- The multiple of `10 ^ place` next to the magnitude that reads back as it, if there is one. -/
def gridPoint? (tie : Tie) (rank place : Nat) : Option Nat :=
  let value := 2 * units rank * Nat.pow 10 gridPlaces
  let step := Nat.pow 10 place * (2 * unitsPerOne)
  let below := value / step
  match readsBack rank (below * step), readsBack rank ((below + 1) * step) with
  | true, true => some (roundQuotient tie value step)
  | true, false => some below
  | false, true => some (below + 1)
  | false, false => none

/-- The fewest digits that read back as the magnitude of rank `rank`: the coarsest of the seventeen
grids from the leading digit on that has a point to offer. -/
def shortestDigits (tie : Tie) (rank : Nat) : Digits :=
  let lead := (Nat.toDigits 10 (units rank * Nat.pow 10 gridPlaces / unitsPerOne)).length
  let hit := (List.range 17).findSome? fun k =>
    (gridPoint? tie rank (lead - 1 - k)).map fun point => (Nat.toDigits 10 point, lead - 1 - k)
  match hit with
  | some (digits, place) =>
    { digits := (digits.reverse.dropWhile (· == '0')).reverse
      pointAt := digits.length + place - gridPlaces }
  | none => { digits := ['0'], pointAt := 1 }

/-! ## Placing the point -/

/-- How digits become a text. -/
structure NumberStyle where
  /-- The exponents of the leading digit that are written with a point alone. -/
  positional : Int → Bool
  /-- Whether a whole number ends in `.0`. -/
  marksWhole : Bool
  /-- What stands before an exponent that is not negative. -/
  exponentPlus : List Char
  /-- Which of two equally near texts is taken. -/
  tie : Tie

/-- The digits with a point and zeros where needed. -/
def Digits.positionalText (d : Digits) (marksWhole : Bool) : List Char :=
  let point := d.pointAt.toNat
  if d.pointAt ≤ 0 then
    ['0', '.'] ++ List.replicate (-d.pointAt).toNat '0' ++ d.digits
  else if d.digits.length ≤ point then
    d.digits ++ List.replicate (point - d.digits.length) '0'
      ++ if marksWhole then ['.', '0'] else []
  else
    d.digits.take point ++ '.' :: d.digits.drop point

/-- The digits with the point behind the first one, and an exponent. -/
def Digits.exponentText (d : Digits) (plus : List Char) : List Char :=
  let exponent := d.pointAt - 1
  d.digits.take 1
    ++ (if d.digits.length ≤ 1 then [] else '.' :: d.digits.drop 1)
    ++ 'e' :: (if exponent < 0 then ['-'] else plus)
    ++ Nat.toDigits 10 exponent.natAbs

/-- The digits in a style. -/
def Digits.text (d : Digits) (style : NumberStyle) : List Char :=
  if style.positional (d.pointAt - 1) then d.positionalText style.marksWhole
  else d.exponentText style.exponentPlus

/-- A number by its shortest digits, in a style. -/
def shortest (style : NumberStyle) : Binary64 → String :=
  textWith fun _ rank =>
    let digits : Digits :=
      if rank.val = 0 then { digits := ['0'], pointAt := 1 } else shortestDigits style.tie rank
    digits.text style

/-- Messages show numbers by a point alone, and whole numbers without one. -/
def plainStyle : NumberStyle :=
  { positional := fun _ => true, marksWhole := false, exponentPlus := [], tie := .up }

/-- Messages about a cell mark whole numbers by `.0` and write an exponent from `10 ^ 16` on and
below `10 ^ -4`. -/
def cellStyle : NumberStyle :=
  { positional := fun e => -4 ≤ e && e ≤ 15, marksWhole := true, exponentPlus := [], tie := .up }

/-- A number as a message shows it. -/
def text (x : Binary64) : String := x.shortest plainStyle

/-- A number as a message about a cell shows it. -/
def cellText (x : Binary64) : String := x.shortest cellStyle

end PartsCatalog.Binary64
