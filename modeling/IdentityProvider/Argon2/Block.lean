import IdentityProvider.Digest.Blake2b

/-!
# Blocks of Argon2 memory

A block is 128 words in eight rows of sixteen. Two blocks are compressed into
one: their sum is permuted row by row and then column by column, where a column
is made of pairs of neighbouring words, and the sum is added again.
-/

namespace IdentityProvider.Argon2

structure Row where
  (w0 w1 w2 w3 w4 w5 w6 w7 w8 w9 w10 w11 w12 w13 w14 w15 : UInt64)
  deriving Repr, DecidableEq

structure Block where
  (r0 r1 r2 r3 r4 r5 r6 r7 : Row)
  deriving Repr, DecidableEq

def Row.zero : Row := ⟨0, 0, 0, 0, 0, 0, 0, 0, 0, 0, 0, 0, 0, 0, 0, 0⟩
def Block.zero : Block := ⟨.zero, .zero, .zero, .zero, .zero, .zero, .zero, .zero⟩

def Row.xor (a b : Row) : Row :=
  ⟨a.w0 ^^^ b.w0, a.w1 ^^^ b.w1, a.w2 ^^^ b.w2, a.w3 ^^^ b.w3, a.w4 ^^^ b.w4, a.w5 ^^^ b.w5,
    a.w6 ^^^ b.w6, a.w7 ^^^ b.w7, a.w8 ^^^ b.w8, a.w9 ^^^ b.w9, a.w10 ^^^ b.w10, a.w11 ^^^ b.w11,
    a.w12 ^^^ b.w12, a.w13 ^^^ b.w13, a.w14 ^^^ b.w14, a.w15 ^^^ b.w15⟩

def Block.xor (a b : Block) : Block :=
  ⟨a.r0.xor b.r0, a.r1.xor b.r1, a.r2.xor b.r2, a.r3.xor b.r3, a.r4.xor b.r4, a.r5.xor b.r5,
    a.r6.xor b.r6, a.r7.xor b.r7⟩

-- ----- Permutation

structure Quad where
  (a b c d : UInt64)
  deriving Repr, DecidableEq

/-- A sum with twice the product of the lower halves. -/
@[inline] def blend (x y : UInt64) : UInt64 :=
  x + y + 2 * (x &&& 0xffffffff) * (y &&& 0xffffffff)

@[inline] def rotate (x : UInt64) (n : UInt64) : UInt64 := x >>> n ||| x <<< (64 - n)

@[inline] def Quad.mix (q : Quad) : Quad :=
  let a := blend q.a q.b
  let d := rotate (q.d ^^^ a) 32
  let c := blend q.c d
  let b := rotate (q.b ^^^ c) 24
  let a := blend a b
  let d := rotate (d ^^^ a) 16
  let c := blend c d
  let b := rotate (b ^^^ c) 63
  ⟨a, b, c, d⟩

/-- The sixteen words as a square: its columns are mixed, then its diagonals. -/
def Row.permute (r : Row) : Row :=
  let p := Quad.mix ⟨r.w0, r.w4, r.w8, r.w12⟩
  let q := Quad.mix ⟨r.w1, r.w5, r.w9, r.w13⟩
  let s := Quad.mix ⟨r.w2, r.w6, r.w10, r.w14⟩
  let t := Quad.mix ⟨r.w3, r.w7, r.w11, r.w15⟩
  let k := Quad.mix ⟨p.a, q.b, s.c, t.d⟩
  let l := Quad.mix ⟨q.a, s.b, t.c, p.d⟩
  let m := Quad.mix ⟨s.a, t.b, p.c, q.d⟩
  let n := Quad.mix ⟨t.a, p.b, q.c, s.d⟩
  ⟨k.a, l.a, m.a, n.a, n.b, k.b, l.b, m.b, m.c, n.c, k.c, l.c, l.d, m.d, n.d, k.d⟩

def Block.permuteRows (b : Block) : Block :=
  ⟨b.r0.permute, b.r1.permute, b.r2.permute, b.r3.permute, b.r4.permute, b.r5.permute,
    b.r6.permute, b.r7.permute⟩

/-- Exchanges rows and columns, a pair of neighbouring words being one place. -/
def Block.transpose (b : Block) : Block :=
  ⟨⟨b.r0.w0, b.r0.w1, b.r1.w0, b.r1.w1, b.r2.w0, b.r2.w1, b.r3.w0, b.r3.w1,
      b.r4.w0, b.r4.w1, b.r5.w0, b.r5.w1, b.r6.w0, b.r6.w1, b.r7.w0, b.r7.w1⟩,
    ⟨b.r0.w2, b.r0.w3, b.r1.w2, b.r1.w3, b.r2.w2, b.r2.w3, b.r3.w2, b.r3.w3,
      b.r4.w2, b.r4.w3, b.r5.w2, b.r5.w3, b.r6.w2, b.r6.w3, b.r7.w2, b.r7.w3⟩,
    ⟨b.r0.w4, b.r0.w5, b.r1.w4, b.r1.w5, b.r2.w4, b.r2.w5, b.r3.w4, b.r3.w5,
      b.r4.w4, b.r4.w5, b.r5.w4, b.r5.w5, b.r6.w4, b.r6.w5, b.r7.w4, b.r7.w5⟩,
    ⟨b.r0.w6, b.r0.w7, b.r1.w6, b.r1.w7, b.r2.w6, b.r2.w7, b.r3.w6, b.r3.w7,
      b.r4.w6, b.r4.w7, b.r5.w6, b.r5.w7, b.r6.w6, b.r6.w7, b.r7.w6, b.r7.w7⟩,
    ⟨b.r0.w8, b.r0.w9, b.r1.w8, b.r1.w9, b.r2.w8, b.r2.w9, b.r3.w8, b.r3.w9,
      b.r4.w8, b.r4.w9, b.r5.w8, b.r5.w9, b.r6.w8, b.r6.w9, b.r7.w8, b.r7.w9⟩,
    ⟨b.r0.w10, b.r0.w11, b.r1.w10, b.r1.w11, b.r2.w10, b.r2.w11, b.r3.w10, b.r3.w11,
      b.r4.w10, b.r4.w11, b.r5.w10, b.r5.w11, b.r6.w10, b.r6.w11, b.r7.w10, b.r7.w11⟩,
    ⟨b.r0.w12, b.r0.w13, b.r1.w12, b.r1.w13, b.r2.w12, b.r2.w13, b.r3.w12, b.r3.w13,
      b.r4.w12, b.r4.w13, b.r5.w12, b.r5.w13, b.r6.w12, b.r6.w13, b.r7.w12, b.r7.w13⟩,
    ⟨b.r0.w14, b.r0.w15, b.r1.w14, b.r1.w15, b.r2.w14, b.r2.w15, b.r3.w14, b.r3.w15,
      b.r4.w14, b.r4.w15, b.r5.w14, b.r5.w15, b.r6.w14, b.r6.w15, b.r7.w14, b.r7.w15⟩⟩

theorem Block.transpose_transpose (b : Block) : b.transpose.transpose = b := rfl

def Block.compress (a b : Block) : Block :=
  let sum := a.xor b
  sum.xor sum.permuteRows.transpose.permuteRows.transpose

-- ----- Bytes and words

def Row.words (r : Row) : List UInt64 :=
  [r.w0, r.w1, r.w2, r.w3, r.w4, r.w5, r.w6, r.w7,
    r.w8, r.w9, r.w10, r.w11, r.w12, r.w13, r.w14, r.w15]

def Block.words (b : Block) : List UInt64 :=
  [b.r0, b.r1, b.r2, b.r3, b.r4, b.r5, b.r6, b.r7].flatMap Row.words

def Block.bytes (b : Block) : Bytes := b.words.flatMap Digest.Blake2b.wordBytes

/-- A row of the words from a place on; words beyond the end are zero. -/
def Row.ofWords (ws : Array UInt64) (start : Nat) : Row :=
  let w (i : Nat) : UInt64 := ws[start + i]?.getD 0
  ⟨w 0, w 1, w 2, w 3, w 4, w 5, w 6, w 7, w 8, w 9, w 10, w 11, w 12, w 13, w 14, w 15⟩

def Block.ofWords (ws : Array UInt64) : Block :=
  ⟨.ofWords ws 0, .ofWords ws 16, .ofWords ws 32, .ofWords ws 48,
    .ofWords ws 64, .ofWords ws 80, .ofWords ws 96, .ofWords ws 112⟩

def wordsOfBytes : Bytes → List UInt64
  | a :: b :: c :: d :: e :: f :: g :: h :: rest =>
    Digest.Blake2b.word [a, b, c, d, e, f, g, h] :: wordsOfBytes rest
  | _ => []

def Block.ofBytes (bs : Bytes) : Block := .ofWords (wordsOfBytes bs).toArray

end IdentityProvider.Argon2
