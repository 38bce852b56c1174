/-!
# Words and bytes

Words of 32 and 64 bits as bytes, the lowest byte first.
-/

namespace PartsCatalog.Digest

/-- The `count` lowest bytes of a number, the lowest one first. -/
def lowBytes : Nat → Nat → List UInt8
  | 0, _ => []
  | count + 1, n => UInt8.ofNat n :: lowBytes count (n / 256)

/-- A number as four bytes. -/
def bytes32 (n : Nat) : List UInt8 := lowBytes 4 n

/-- A word as eight bytes. -/
def bytes64 (word : UInt64) : List UInt8 := lowBytes 8 word.toNat

/-- The word that starts at an offset; behind the end all bytes are zero. -/
def wordAt (bytes : Array UInt8) (offset : Nat) : UInt64 :=
  (List.range 8).foldr (fun i word => word <<< 8 ||| (bytes.getD (offset + i) 0).toUInt64) 0

/-- A word with its bits turned to the right. -/
@[inline] def rotateRight (word : UInt64) (count : UInt64) : UInt64 :=
  word >>> count ||| word <<< (64 - count)

end PartsCatalog.Digest
