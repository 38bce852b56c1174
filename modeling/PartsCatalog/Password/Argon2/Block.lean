import PartsCatalog.Digest.Words

/-!
# Memory blocks of Argon2

A block is a square of eight rows with eight pairs of words.  Compressing two blocks mixes the rows
of their sum, then its columns, and adds the sum again.
-/

namespace PartsCatalog.Password.Argon2

open PartsCatalog.Digest

/-! ## Rows -/

/-- Sixteen words. -/
structure Row where
  w0 : UInt64
  w1 : UInt64
  w2 : UInt64
  w3 : UInt64
  w4 : UInt64
  w5 : UInt64
  w6 : UInt64
  w7 : UInt64
  w8 : UInt64
  w9 : UInt64
  w10 : UInt64
  w11 : UInt64
  w12 : UInt64
  w13 : UInt64
  w14 : UInt64
  w15 : UInt64

/-- Four words. -/
structure Quad where
  a : UInt64
  b : UInt64
  c : UInt64
  d : UInt64

/-- The sum of two words and twice the product of their lower halves. -/
@[inline] def blend (x y : UInt64) : UInt64 :=
  x + y + 2 * (x &&& 0xffffffff) * (y &&& 0xffffffff)

/-- Mixes four words. -/
@[inline] def mix (a b c d : UInt64) : Quad :=
  let a := blend a b
  let d := rotateRight (d ^^^ a) 32
  let c := blend c d
  let b := rotateRight (b ^^^ c) 24
  let a := blend a b
  let d := rotateRight (d ^^^ a) 16
  let c := blend c d
  let b := rotateRight (b ^^^ c) 63
  ⟨a, b, c, d⟩

namespace Row

/-- The row of zeros. -/
def zero : Row := ⟨0, 0, 0, 0, 0, 0, 0, 0, 0, 0, 0, 0, 0, 0, 0, 0⟩

instance : Inhabited Row := ⟨zero⟩

/-- Mixes the sixteen words, as a square of four by four: its columns and then its diagonals. -/
def mixed : Row → Row
  | ⟨w0, w1, w2, w3, w4, w5, w6, w7, w8, w9, w10, w11, w12, w13, w14, w15⟩ =>
    let ⟨w0, w4, w8, w12⟩ := mix w0 w4 w8 w12
    let ⟨w1, w5, w9, w13⟩ := mix w1 w5 w9 w13
    let ⟨w2, w6, w10, w14⟩ := mix w2 w6 w10 w14
    let ⟨w3, w7, w11, w15⟩ := mix w3 w7 w11 w15
    let ⟨w0, w5, w10, w15⟩ := mix w0 w5 w10 w15
    let ⟨w1, w6, w11, w12⟩ := mix w1 w6 w11 w12
    let ⟨w2, w7, w8, w13⟩ := mix w2 w7 w8 w13
    let ⟨w3, w4, w9, w14⟩ := mix w3 w4 w9 w14
    ⟨w0, w1, w2, w3, w4, w5, w6, w7, w8, w9, w10, w11, w12, w13, w14, w15⟩

/-- The sum of two rows, bit by bit. -/
def xor (x y : Row) : Row :=
  ⟨x.w0 ^^^ y.w0, x.w1 ^^^ y.w1, x.w2 ^^^ y.w2, x.w3 ^^^ y.w3, x.w4 ^^^ y.w4, x.w5 ^^^ y.w5,
    x.w6 ^^^ y.w6, x.w7 ^^^ y.w7, x.w8 ^^^ y.w8, x.w9 ^^^ y.w9, x.w10 ^^^ y.w10, x.w11 ^^^ y.w11,
    x.w12 ^^^ y.w12, x.w13 ^^^ y.w13, x.w14 ^^^ y.w14, x.w15 ^^^ y.w15⟩

/-- The words of a row. -/
def words (r : Row) : List UInt64 :=
  [r.w0, r.w1, r.w2, r.w3, r.w4, r.w5, r.w6, r.w7, r.w8, r.w9, r.w10, r.w11, r.w12, r.w13, r.w14,
    r.w15]

/-- The row whose words stand at an offset. -/
def ofBytes (bytes : Array UInt8) (offset : Nat) : Row :=
  let w := fun i => wordAt bytes (offset + 8 * i)
  ⟨w 0, w 1, w 2, w 3, w 4, w 5, w 6, w 7, w 8, w 9, w 10, w 11, w 12, w 13, w 14, w 15⟩

end Row

/-! ## Blocks -/

/-- Eight rows: 1024 bytes. -/
structure Block where
  r0 : Row
  r1 : Row
  r2 : Row
  r3 : Row
  r4 : Row
  r5 : Row
  r6 : Row
  r7 : Row

namespace Block

/-- The block of zeros. -/
def zero : Block := ⟨.zero, .zero, .zero, .zero, .zero, .zero, .zero, .zero⟩

instance : Inhabited Block := ⟨zero⟩

/-- The block with rows and columns of its pairs of words exchanged. -/
def transposed : Block → Block
  | ⟨a, b, c, d, e, f, g, h⟩ =>
    ⟨⟨a.w0, a.w1, b.w0, b.w1, c.w0, c.w1, d.w0, d.w1,
        e.w0, e.w1, f.w0, f.w1, g.w0, g.w1, h.w0, h.w1⟩,
      ⟨a.w2, a.w3, b.w2, b.w3, c.w2, c.w3, d.w2, d.w3,
        e.w2, e.w3, f.w2, f.w3, g.w2, g.w3, h.w2, h.w3⟩,
      ⟨a.w4, a.w5, b.w4, b.w5, c.w4, c.w5, d.w4, d.w5,
        e.w4, e.w5, f.w4, f.w5, g.w4, g.w5, h.w4, h.w5⟩,
      ⟨a.w6, a.w7, b.w6, b.w7, c.w6, c.w7, d.w6, d.w7,
        e.w6, e.w7, f.w6, f.w7, g.w6, g.w7, h.w6, h.w7⟩,
      ⟨a.w8, a.w9, b.w8, b.w9, c.w8, c.w9, d.w8, d.w9,
        e.w8, e.w9, f.w8, f.w9, g.w8, g.w9, h.w8, h.w9⟩,
      ⟨a.w10, a.w11, b.w10, b.w11, c.w10, c.w11, d.w10, d.w11,
        e.w10, e.w11, f.w10, f.w11, g.w10, g.w11, h.w10, h.w11⟩,
      ⟨a.w12, a.w13, b.w12, b.w13, c.w12, c.w13, d.w12, d.w13,
        e.w12, e.w13, f.w12, f.w13, g.w12, g.w13, h.w12, h.w13⟩,
      ⟨a.w14, a.w15, b.w14, b.w15, c.w14, c.w15, d.w14, d.w15,
        e.w14, e.w15, f.w14, f.w15, g.w14, g.w15, h.w14, h.w15⟩⟩

/-- The block with every row mixed. -/
def rowsMixed (x : Block) : Block :=
  ⟨x.r0.mixed, x.r1.mixed, x.r2.mixed, x.r3.mixed, x.r4.mixed, x.r5.mixed, x.r6.mixed, x.r7.mixed⟩

/-- The sum of two blocks, bit by bit. -/
def xor (x y : Block) : Block :=
  ⟨x.r0.xor y.r0, x.r1.xor y.r1, x.r2.xor y.r2, x.r3.xor y.r3, x.r4.xor y.r4, x.r5.xor y.r5,
    x.r6.xor y.r6, x.r7.xor y.r7⟩

/-- Compresses two blocks into one. -/
def compress (x y : Block) : Block :=
  let sum := x.xor y
  sum.xor sum.rowsMixed.transposed.rowsMixed.transposed

/-- The first word, which says where the block after this one looks. -/
def firstWord (x : Block) : UInt64 := x.r0.w0

/-- All words of a block. -/
def words (x : Block) : List UInt64 :=
  [x.r0, x.r1, x.r2, x.r3, x.r4, x.r5, x.r6, x.r7].flatMap Row.words

/-- The block of 1024 bytes. -/
def ofBytes (bytes : Array UInt8) : Block :=
  let row := fun i => Row.ofBytes bytes (128 * i)
  ⟨row 0, row 1, row 2, row 3, row 4, row 5, row 6, row 7⟩

/-- The bytes of a block. -/
def bytes (x : Block) : List UInt8 := x.words.flatMap bytes64

end Block

end PartsCatalog.Password.Argon2
