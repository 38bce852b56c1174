import PartsCatalog.Password.Argon2.Block

/-!
# Filling the memory of Argon2

The memory is a table of blocks with one row, a lane, for every unit of parallelism.  It is filled
in passes over four slices, one segment of a lane after the other; every new block is compressed
from the one before it and from another one that was filled earlier.
-/

namespace PartsCatalog.Password.Argon2

/-! ## Parameters -/

/-- How the earlier blocks are chosen: by what was filled, by position only, or first by position
and later by what was filled. -/
inductive Variant where
  | dependent
  | independent
  | hybrid
deriving DecidableEq

/-- The number of a variant in the format. -/
def Variant.code : Variant → Nat
  | dependent => 0
  | independent => 1
  | hybrid => 2

/-- The versions of the format. -/
inductive Version where
  | v16
  | v19
deriving DecidableEq

/-- The number of a version. -/
def Version.code : Version → Nat
  | v16 => 16
  | v19 => 19

/-- What the work depends on. -/
structure Cost where
  /-- The memory, in blocks of 1024 bytes. -/
  memory : Nat
  passes : Nat
  lanes : Nat
deriving DecidableEq

namespace Cost

/-- A pass goes over the memory in four slices. -/
def slices : Nat := 4

/-- The blocks of one lane in one slice. -/
def segmentLength (c : Cost) : Nat := c.memory / (slices * c.lanes)

/-- The blocks of one lane. -/
def laneLength (c : Cost) : Nat := slices * c.segmentLength

/-- All blocks. -/
def blocks (c : Cost) : Nat := c.lanes * c.laneLength

end Cost

/-- The parameters of a run. -/
structure Settings where
  variant : Variant
  version : Version
  cost : Cost

/-! ## Choosing the other block -/

/-- The place in the work: pass, slice and lane. -/
structure Place where
  pass : Nat
  slice : Nat
  lane : Nat

/-- Whether the blocks to look at are chosen by position at a place. -/
def Settings.choosesByPosition (s : Settings) (p : Place) : Bool :=
  match s.variant with
  | .dependent => false
  | .independent => true
  | .hybrid => p.pass = 0 && p.slice < 2

/-- How many choices one block of choices holds. -/
def choicesPerBlock : Nat := 128

/-- The block of choices number `count` at a place. -/
def Settings.choices (s : Settings) (p : Place) (count : Nat) : Array UInt64 :=
  let n := fun (x : Nat) => UInt64.ofNat x
  let input : Block :=
    { Block.zero with
      r0 := ⟨n p.pass, n p.lane, n p.slice, n s.cost.blocks, n s.cost.passes, n s.variant.code,
        n count, 0, 0, 0, 0, 0, 0, 0, 0, 0⟩ }
  (Block.zero.compress (Block.zero.compress input)).words.toArray

/-- The lane that a choice points to; in the first segments a block looks only at its own lane. -/
def Cost.chosenLane (c : Cost) (p : Place) (choice : UInt64) : Nat :=
  if p.pass = 0 ∧ p.slice = 0 then p.lane else (choice >>> 32).toNat % c.lanes

/-- How many blocks of a lane may be looked at from block `i` of a segment.  In another lane the
last block counts only after the segment has begun. -/
def Cost.window (c : Cost) (p : Place) (i : Nat) (sameLane : Bool) : Nat :=
  let filled := if p.pass = 0 then p.slice * c.segmentLength else c.laneLength - c.segmentLength
  if sameLane then filled + i - 1 else if i = 0 then filled - 1 else filled

/-- Where the window starts in a lane. -/
def Cost.windowStart (c : Cost) (p : Place) : Nat :=
  if p.pass = 0 ∨ p.slice = 3 then 0 else (p.slice + 1) * c.segmentLength

/-- How far from the newest block of a window of `size` blocks a choice points; near ones are
preferred. -/
def distance (choice : UInt64) (size : Nat) : Nat :=
  let low := choice &&& 0xffffffff
  let square := (low * low) >>> 32
  ((UInt64.ofNat size * square) >>> 32).toNat

/-- The index of the block that a choice points to. -/
def Cost.chosenIndex (c : Cost) (p : Place) (i : Nat) (choice : UInt64) : Nat :=
  let lane := c.chosenLane p choice
  let size := c.window p i (lane == p.lane)
  lane * c.laneLength + (c.windowStart p + (size - 1 - distance choice size)) % c.laneLength

/-! ## Filling -/

/-- The memory, with the block of choices in use. -/
structure Filling where
  memory : Array Block
  choices : Array UInt64

/-- Fills block `i` of a segment. -/
def Settings.fillBlock (s : Settings) (p : Place) (byPosition : Bool) (i : Nat) :
    Filling → Filling
  | ⟨memory, choices⟩ =>
    let laneStart := p.lane * s.cost.laneLength
    let column := p.slice * s.cost.segmentLength + i
    let before := if column = 0 then s.cost.laneLength - 1 else column - 1
    let previous := memory.getD (laneStart + before) .zero
    let choices :=
      if byPosition && i % choicesPerBlock = 0 then s.choices p (i / choicesPerBlock + 1)
      else choices
    let choice :=
      if byPosition then choices.getD (i % choicesPerBlock) 0 else previous.firstWord
    let other := memory.getD (s.cost.chosenIndex p i choice) .zero
    let fresh := previous.compress other
    let target := laneStart + column
    let fresh :=
      if p.pass = 0 || s.version = .v16 then fresh else fresh.xor (memory.getD target .zero)
    ⟨memory.setIfInBounds target fresh, choices⟩

/-- Fills a segment.  The first two blocks of every lane are there from the start. -/
def Settings.fillSegment (s : Settings) (memory : Array Block) (p : Place) : Array Block :=
  let byPosition := s.choosesByPosition p
  let first := if p.pass = 0 && p.slice = 0 then 2 else 0
  let choices := if byPosition then s.choices p 1 else #[]
  ((List.range' first (s.cost.segmentLength - first)).foldl
    (fun filling i => s.fillBlock p byPosition i filling) ⟨memory, choices⟩).memory

/-- All places, in the order of the work. -/
def Cost.places (c : Cost) : List Place :=
  (List.range c.passes).flatMap fun pass =>
    (List.range slices).flatMap fun slice =>
      (List.range c.lanes).map fun lane => { pass, slice, lane }

/-- Fills the memory. -/
def Settings.fill (s : Settings) (memory : Array Block) : Array Block :=
  s.cost.places.foldl s.fillSegment memory

end PartsCatalog.Password.Argon2
