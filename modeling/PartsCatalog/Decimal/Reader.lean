import PartsCatalog.Decimal.Basic

/-!
# Reading decimals

A decimal is a sign, digits with an optional point, and underscores between them.  Places that no
longer fit are rounded away at the first of them, a half going up, and what follows it is not looked
at; a whole part that does not fit is an error.  The scientific form adds an exponent.
-/

namespace PartsCatalog.Decimal

/-- What has been read of a decimal: its digits so far, how many of them stand behind the point,
whether the point was passed and whether there was a digit. -/
structure Scan where
  mantissa : Nat := 0
  scale : Nat := 0
  pastPoint : Bool := false
  hasDigit : Bool := false

/-- The unsigned decimal that a scan has come to. -/
def Scan.finish? (s : Scan) : Option (Nat × Nat) :=
  if s.hasDigit then some (s.mantissa, s.scale) else none

/-- Rounds at the first digit that is not kept. -/
def Scan.roundAt? (s : Scan) (next : Char) : Option (Nat × Nat) :=
  if next.isDigit then
    let up := if next.toNat - '0'.toNat < 5 then s.mantissa else s.mantissa + 1
    if up < coefficientBound then some (up, s.scale)
    else if s.scale = 0 then none
    else some ((up + 4) / 10, s.scale - 1)
  else if next = '_' || (s.pastPoint && next = '.') then some (s.mantissa, s.scale)
  else none

/-- Reads the digits of a decimal. -/
def scan? (s : Scan) : List Char → Option (Nat × Nat)
  | [] => s.finish?
  | c :: rest =>
    if s.pastPoint && s.hasDigit && s.scale = maxScale then s.roundAt? c
    else if c.isDigit then
      let mantissa := s.mantissa * 10 + (c.toNat - '0'.toNat)
      if mantissa < coefficientBound then
        let scale := if s.pastPoint then s.scale + 1 else 0
        scan? { s with mantissa, scale, hasDigit := true } rest
      else if s.pastPoint then s.roundAt? c
      else none
    else if c = '.' && !s.pastPoint then scan? { s with pastPoint := true } rest
    else if c = '_' && s.hasDigit then scan? s rest
    else none

/-- Reads a decimal without an exponent. -/
def ofPlainChars? (cs : List Char) : Option Decimal :=
  let (negative, digits) :=
    match cs with
    | '-' :: rest => (true, rest)
    | '+' :: rest => (false, rest)
    | rest => (false, rest)
  (scan? {} digits).bind fun (mantissa, scale) => ofParts? (signed negative mantissa) scale

/-- Moves the point of a decimal by `exponent` places to the right. -/
def shiftPoint? (d : Decimal) (exponent : Int) : Option Decimal :=
  if exponent ≤ d.scale then ofParts? d.coefficient (d.scale - exponent).toNat
  else if 28 < exponent then none
  else (d.times? (Nat.pow 10 exponent.toNat)).map normalize

/-- The exponent of the scientific form. -/
def readExponent? : List Char → Option Int
  | '-' :: rest => (Text.readUnsigned? rest).map fun n => -(n : Int)
  | rest => (Text.readUnsigned? rest).map Int.ofNat

/-- Reads a decimal with an exponent. -/
def ofScientificChars? (cs : List Char) : Option Decimal :=
  let isMark := fun c : Char => c == 'e' || c == 'E'
  match cs.dropWhile (!isMark ·) with
  | [] => none
  | _ :: exponent => do
    let d ← ofPlainChars? (cs.takeWhile (!isMark ·))
    let exponent ← readExponent? exponent
    d.shiftPoint? exponent

/-- Reads a decimal in either form. -/
def ofText? (s : String) : Option Decimal :=
  ofPlainChars? s.toList <|> ofScientificChars? s.toList

end PartsCatalog.Decimal
