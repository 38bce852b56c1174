/-!
# Binary64 numbers

The numbers of the 64-bit binary floating-point format.  The finite magnitudes are numbered in
increasing order, and a finite number is its sign and the rank of its magnitude; the rank is at the
same time the bit pattern.  All not-a-number patterns are one value.

Comparing two numbers is comparing two integers (`order?`), so the order laws are those of `Int`:
the two zeros compare equal, and a value that is not a number compares with nothing.
-/

namespace PartsCatalog

/-- The number of finite magnitudes: 2047 exponents with 52 bits of fraction each. -/
def magnitudeCount : Nat := 2047 * Nat.pow 2 52

theorem magnitudeCount_pos : 0 < magnitudeCount := by decide

/-- A number of the binary64 format. -/
inductive Binary64 where
  | nan
  | infinite (negative : Bool)
  | finite (negative : Bool) (rank : Fin magnitudeCount)
deriving DecidableEq

namespace Binary64

/-- The magnitude of rank `rank`, as a multiple of the smallest one, 2⁻¹⁰⁷⁴. -/
def units (rank : Nat) : Nat :=
  let exponent := rank / Nat.pow 2 52
  let fraction := rank % Nat.pow 2 52
  if exponent = 0 then fraction else (Nat.pow 2 52 + fraction) * Nat.pow 2 (exponent - 1)

/-- How many units make up one. -/
def unitsPerOne : Nat := Nat.pow 2 1074

/-- Positive zero. -/
def zero : Binary64 := .finite false ⟨0, magnitudeCount_pos⟩

instance : Inhabited Binary64 := ⟨zero⟩

/-! ## Bit patterns -/

/-- The number with the given bit pattern. -/
def ofBits (bits : UInt64) : Binary64 :=
  let negative := bits.toNat / Nat.pow 2 63 == 1
  let rank := bits.toNat % Nat.pow 2 63
  if h : rank < magnitudeCount then .finite negative ⟨rank, h⟩
  else if rank = magnitudeCount then .infinite negative
  else .nan

/-- The bit pattern of a number. -/
def toBits : Binary64 → UInt64
  | nan => UInt64.ofNat (magnitudeCount + Nat.pow 2 51)
  | infinite negative => UInt64.ofNat (magnitudeCount + if negative then Nat.pow 2 63 else 0)
  | finite negative rank => UInt64.ofNat (rank + if negative then Nat.pow 2 63 else 0)

/-! ## Order -/

/-- Whether a number is neither infinite nor `nan`. -/
def isFinite : Binary64 → Bool
  | finite .. => true
  | _ => false

/-- The place of a number in the order of all numbers. -/
def order? : Binary64 → Option Int
  | nan => none
  | infinite negative => some (if negative then -magnitudeCount else magnitudeCount)
  | finite negative rank => some (if negative then -(rank.val : Int) else rank.val)

/-- How two numbers compare; nothing compares with `nan`. -/
def compare? (x y : Binary64) : Option Ordering :=
  match x.order?, y.order? with
  | some a, some b => some (compare a b)
  | _, _ => none

/-- Numerical equality: the zeros are equal, and `nan` differs from itself. -/
def same (x y : Binary64) : Bool := x.compare? y == some .eq

/-- `x < y`. -/
def less (x y : Binary64) : Bool := x.compare? y == some .lt

/-- `x ≤ y`. -/
def atMost (x y : Binary64) : Bool := x.less y || x.same y

end Binary64

end PartsCatalog
