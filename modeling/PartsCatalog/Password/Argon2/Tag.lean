import PartsCatalog.Digest.Blake2b
import PartsCatalog.Password.Argon2.Memory

/-!
# The tag of Argon2

What Argon2 makes of a password: a tag of some bytes, for which it takes so much memory and so many
passes over it that guessing is slow.
-/

namespace PartsCatalog.Password.Argon2

open PartsCatalog.Digest

/-! ## Digests of any length -/

/-- Digests of which each is the digest of the one before it. -/
def digestChain : Nat → List UInt8 → List (List UInt8)
  | 0, _ => []
  | count + 1, digest => digest :: digestChain count (Blake2b.digest 64 digest)

/-- A digest of any length: halves of a chain of digests, and a whole one at the end. -/
def longDigest (length : Nat) (message : List UInt8) : List UInt8 :=
  let input := bytes32 length ++ message
  if length ≤ 64 then Blake2b.digest length input
  else
    let halves := (length + 31) / 32 - 2
    let chain := digestChain halves (Blake2b.digest 64 input)
    chain.flatMap (·.take 32)
      ++ Blake2b.digest (length - 32 * halves) (chain.getLastD [])

/-! ## The tag -/

/-- What is hashed. -/
structure Input where
  password : List UInt8
  salt : List UInt8
  associated : List UInt8

/-- Bytes with their number before them. -/
def counted (bytes : List UInt8) : List UInt8 := bytes32 bytes.length ++ bytes

/-- The digest of everything that a run depends on.  There is no secret key. -/
def seed (s : Settings) (input : Input) (tagLength : Nat) : List UInt8 :=
  Blake2b.digest 64 <|
    [s.cost.lanes, tagLength, s.cost.memory, s.cost.passes, s.version.code, s.variant.code].flatMap
      bytes32
    ++ counted input.password ++ counted input.salt ++ counted [] ++ counted input.associated

/-- Block `i` of a lane, for the first two blocks. -/
def firstBlock (seed : List UInt8) (lane i : Nat) : Block :=
  .ofBytes (longDigest 1024 (seed ++ bytes32 i ++ bytes32 lane)).toArray

/-- The memory before it is filled. -/
def startMemory (c : Cost) (seed : List UInt8) : Array Block :=
  (List.range c.lanes).foldl (fun memory lane =>
    (List.range 2).foldl (fun memory i =>
      memory.setIfInBounds (lane * c.laneLength + i) (firstBlock seed lane i)) memory)
    (Array.replicate c.blocks .zero)

/-- The sum of the last blocks of all lanes. -/
def lastColumn (c : Cost) (memory : Array Block) : Block :=
  (List.range c.lanes).foldl (fun sum lane =>
    sum.xor (memory.getD (lane * c.laneLength + (c.laneLength - 1)) .zero)) .zero

/-- The tag of `length` bytes. -/
def tag (s : Settings) (input : Input) (length : Nat) : List UInt8 :=
  let memory := s.fill (startMemory s.cost (seed s input length))
  longDigest length (lastColumn s.cost memory).bytes

end PartsCatalog.Password.Argon2
