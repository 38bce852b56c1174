import PartsCatalog.Binary64.Basic
import PartsCatalog.Rounding

/-!
# Arithmetic on binary64 numbers

Every operation computes its exact result as a quotient of natural numbers and rounds it once, to
the nearest magnitude and of two equally near ones to the one with the even rank (`ofUnits`).
-/

namespace PartsCatalog.Binary64

/-- The number nearest to `num / den` units.  Magnitudes of one exponent are `2 ^ shift` units
apart, so the rank is the rounded number of such steps behind the exponents that were passed. -/
def ofUnits (negative : Bool) (num den : Nat) : Binary64 :=
  let shift := (num / den).log2 - 52
  let rank := shift * Nat.pow 2 52 + roundQuotient .toEven num (den * Nat.pow 2 shift)
  if h : rank < magnitudeCount then .finite negative ⟨rank, h⟩ else .infinite negative

/-- The number nearest to an integer. -/
def ofInt (n : Int) : Binary64 := ofUnits (n < 0) (n.natAbs * unitsPerOne) 1

/-- The number nearest to a natural number. -/
def ofNat (n : Nat) : Binary64 := ofUnits false (n * unitsPerOne) 1

/-- The number with the other sign. -/
def neg : Binary64 → Binary64
  | nan => nan
  | infinite negative => infinite !negative
  | finite negative rank => finite (!negative) rank

/-- A magnitude of `n` units under a sign, as an integer. -/
def signed (negative : Bool) (n : Nat) : Int := if negative then -(n : Int) else n

/-- The sum.  A sum of zero is negative only when both summands are. -/
def add : Binary64 → Binary64 → Binary64
  | nan, _ => nan
  | _, nan => nan
  | infinite s, infinite t => if s = t then infinite s else nan
  | infinite s, finite _ _ => infinite s
  | finite _ _, infinite t => infinite t
  | finite s a, finite t b =>
    let sum := signed s (units a) + signed t (units b)
    if sum = 0 then finite (s && t) ⟨0, magnitudeCount_pos⟩ else ofUnits (sum < 0) sum.natAbs 1

/-- The difference. -/
def sub (x y : Binary64) : Binary64 := x.add y.neg

/-- The product. -/
def mul : Binary64 → Binary64 → Binary64
  | nan, _ => nan
  | _, nan => nan
  | infinite s, infinite t => infinite (s ^^ t)
  | infinite s, finite t b => if b.val = 0 then nan else infinite (s ^^ t)
  | finite s a, infinite t => if a.val = 0 then nan else infinite (s ^^ t)
  | finite s a, finite t b => ofUnits (s ^^ t) (units a * units b) unitsPerOne

/-- The quotient. -/
def div : Binary64 → Binary64 → Binary64
  | nan, _ => nan
  | _, nan => nan
  | infinite _, infinite _ => nan
  | infinite s, finite t _ => infinite (s ^^ t)
  | finite s _, infinite t => finite (s ^^ t) ⟨0, magnitudeCount_pos⟩
  | finite s a, finite t b =>
    if b.val = 0 then if a.val = 0 then nan else infinite (s ^^ t)
    else ofUnits (s ^^ t) (units a * unitsPerOne) (units b)

/-- The larger of a number and zero; zero for `nan`. -/
def clampBelow (x : Binary64) : Binary64 := if zero.less x then x else zero

/-! ## Whole numbers -/

/-- Whether a number is finite and has no fractional part. -/
def isWhole : Binary64 → Bool
  | finite _ rank => units rank % unitsPerOne == 0
  | _ => false

/-- The integer that is left when the fractional part is dropped. -/
def truncate : Binary64 → Int
  | finite negative rank => signed negative (units rank / unitsPerOne)
  | _ => 0

/-- The largest whole number that does not exceed a number. -/
def floor : Binary64 → Binary64
  | finite negative rank =>
    let whole := units rank / unitsPerOne
    let whole := if negative && units rank % unitsPerOne != 0 then whole + 1 else whole
    ofUnits negative (whole * unitsPerOne) 1
  | x => x

/-- The nearest whole number, a half going away from zero. -/
def round : Binary64 → Binary64
  | finite negative rank =>
    ofUnits negative (roundQuotient .up (units rank) unitsPerOne * unitsPerOne) 1
  | x => x

/-- The whole part as a count of at most `limit`; below zero there is nothing to count. -/
def toCount (limit : Nat) : Binary64 → Nat
  | nan => 0
  | infinite negative => if negative then 0 else limit
  | finite negative rank => if negative then 0 else min limit (units rank / unitsPerOne)

end PartsCatalog.Binary64
