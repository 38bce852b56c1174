import PartsCatalog.Binary64.Arithmetic
import PartsCatalog.Text.Numeral

/-!
# Reading binary64 numbers

A decimal literal is an optional sign, digits with an optional point among or around them, and an
optional exponent.  `ofLiteral` rounds its exact value once.
-/

namespace PartsCatalog.Binary64

open PartsCatalog.Text

/-- A decimal literal: `± significand · 10 ^ exponent`. -/
structure Literal where
  negative : Bool
  significand : Nat
  exponent : Int
deriving DecidableEq

/-- Splits off a sign; `true` is minus. -/
def splitSign : List Char → Bool × List Char
  | '-' :: rest => (true, rest)
  | '+' :: rest => (false, rest)
  | rest => (false, rest)

/-- Splits off the places behind a point, if there is one. -/
def splitPlaces : List Char → List Char × List Char
  | '.' :: rest => rest.span Char.isDigit
  | rest => ([], rest)

/-- The exponent that ends a literal; zero if there is none. -/
def readExponent? : List Char → Option Int
  | [] => some 0
  | c :: rest => if c = 'e' || c = 'E' then readSigned? rest else none

/-- Reads a decimal literal, which fills the whole text. -/
def Literal.ofChars? (cs : List Char) : Option Literal :=
  let (negative, body) := splitSign cs
  let (whole, rest) := body.span Char.isDigit
  let (places, rest) := splitPlaces rest
  if whole.isEmpty && places.isEmpty then none
  else
    (readExponent? rest).map fun exponent =>
      { negative
        significand := Nat.ofDigitChars 10 (whole ++ places) 0
        exponent := exponent - places.length }

/-- The number nearest to a literal.  A literal whose leading digit stands above `10 ^ 310` or below
`10 ^ -330` is past the largest or below the smallest magnitude, whatever its digits are. -/
def ofLiteral (l : Literal) : Binary64 :=
  let lead := (Nat.toDigits 10 l.significand).length + l.exponent
  if l.significand = 0 || lead < -330 then ofUnits l.negative 0 1
  else if 310 < lead then .infinite l.negative
  else
    ofUnits l.negative
      (l.significand * Nat.pow 10 l.exponent.toNat * unitsPerOne) (Nat.pow 10 (-l.exponent).toNat)

/-- The finite number that a text denotes. -/
def ofText? (s : String) : Option Binary64 :=
  ((Literal.ofChars? s.toList).map ofLiteral).filter isFinite

end PartsCatalog.Binary64
