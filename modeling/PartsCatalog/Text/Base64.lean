/-!
# Base64

Bytes as characters of an alphabet of sixty-four, without padding.  `encode` writes three bytes as
four characters; `decode?` accepts exactly what `encode` writes in the standard alphabet, so the
bits that are left over at the end are zero.
-/

namespace PartsCatalog.Text.Base64

/-! ## Alphabets -/

/-- The letters and digits that every alphabet starts with. -/
def alphanumerics : List Char :=
  "ABCDEFGHIJKLMNOPQRSTUVWXYZabcdefghijklmnopqrstuvwxyz0123456789".toList

/-- The standard alphabet. -/
def standard : List Char := alphanumerics ++ ['+', '/']

/-- The alphabet that may stand in addresses and file names. -/
def urlSafe : List Char := alphanumerics ++ ['-', '_']

/-- The character for six bits. -/
def symbol (alphabet : List Char) (sextet : Nat) : Char := alphabet.getD sextet 'A'

/-- The six bits that a character stands for. -/
def sextet? (alphabet : List Char) (c : Char) : Option Nat := alphabet.idxOf? c

/-! ## Writing -/

/-- Bytes in an alphabet. -/
def encode (alphabet : List Char) : List UInt8 → List Char
  | [] => []
  | [a] =>
    let n := a.toNat * 16
    [n / 64, n % 64].map (symbol alphabet)
  | [a, b] =>
    let n := (a.toNat * 256 + b.toNat) * 4
    [n / 4096, n / 64 % 64, n % 64].map (symbol alphabet)
  | a :: b :: c :: rest =>
    let n := (a.toNat * 256 + b.toNat) * 256 + c.toNat
    [n / 262144, n / 4096 % 64, n / 64 % 64, n % 64].map (symbol alphabet) ++ encode alphabet rest

/-! ## Reading -/

/-- The bytes of complete and incomplete groups of six bits.  The bits left over are zero. -/
def ofSextets? : List Nat → Option (List UInt8)
  | [] => some []
  | [_] => none
  | [a, b] => if b % 16 = 0 then some [UInt8.ofNat (a * 4 + b / 16)] else none
  | [a, b, c] =>
    if c % 4 = 0 then some [UInt8.ofNat (a * 4 + b / 16), UInt8.ofNat (b % 16 * 16 + c / 4)]
    else none
  | a :: b :: c :: d :: rest =>
    (ofSextets? rest).map fun bytes =>
      UInt8.ofNat (a * 4 + b / 16) :: UInt8.ofNat (b % 16 * 16 + c / 4)
        :: UInt8.ofNat (c % 4 * 64 + d) :: bytes

/-- The bytes that a text in the standard alphabet denotes. -/
def decode? (cs : List Char) : Option (List UInt8) :=
  (cs.mapM (sextet? standard)).bind ofSextets?

end PartsCatalog.Text.Base64
