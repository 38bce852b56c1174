/-!
# Numerals

Whole numbers written in decimal digits.  A sign in front is one character and the digits after it
are ASCII digits, at least one of them; nothing else is accepted, not even a blank.
-/

namespace PartsCatalog.Text

/-- The number that a non-empty run of digits denotes. -/
def readDigits? (cs : List Char) : Option Nat :=
  if cs.isEmpty || !cs.all Char.isDigit then none else some (Nat.ofDigitChars 10 cs 0)

/-- The number that digits with an optional plus sign denote. -/
def readUnsigned? : List Char → Option Nat
  | '+' :: digits => readDigits? digits
  | digits => readDigits? digits

/-- The number that digits with an optional sign denote. -/
def readSigned? : List Char → Option Int
  | '-' :: digits => (readDigits? digits).map fun n => -(n : Int)
  | '+' :: digits => (readDigits? digits).map Int.ofNat
  | digits => (readDigits? digits).map Int.ofNat

/-- The digits of `n`, filled up with zeros in front to at least `width` of them. -/
def paddedDigits (width n : Nat) : List Char :=
  let digits := Nat.toDigits 10 n
  List.replicate (width - digits.length) '0' ++ digits

end PartsCatalog.Text
