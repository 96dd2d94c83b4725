import IdentityProvider.Bytes

/-!
# BLAKE2b

An unkeyed digest of one to sixty-four bytes. The chaining value is eight
64-bit words; a block's sixteen words are mixed into sixteen working words in
twelve rounds, each taking them in an order of its own.
-/

namespace IdentityProvider.Digest

namespace Blake2b

abbrev Words (n : Nat) := Vector UInt64 n

def initial : Words 8 :=
  #v[0x6a09e667f3bcc908, 0xbb67ae8584caa73b, 0x3c6ef372fe94f82b, 0xa54ff53a5f1d36f1,
     0x510e527fade682d1, 0x9b05688c2b3e6c1f, 0x1f83d9abfb41bd6b, 0x5be0cd19137e2179]

/-- The orders in which ten rounds take the words of a block; two more begin again. -/
def orders : List (List (Fin 16)) :=
  [[0, 1, 2, 3, 4, 5, 6, 7, 8, 9, 10, 11, 12, 13, 14, 15],
   [14, 10, 4, 8, 9, 15, 13, 6, 1, 12, 0, 2, 11, 7, 5, 3],
   [11, 8, 12, 0, 5, 2, 15, 13, 10, 14, 3, 6, 7, 1, 9, 4],
   [7, 9, 3, 1, 13, 12, 11, 14, 2, 6, 5, 10, 4, 0, 15, 8],
   [9, 0, 5, 7, 2, 4, 10, 15, 14, 1, 11, 12, 6, 8, 3, 13],
   [2, 12, 6, 10, 0, 11, 8, 3, 4, 13, 7, 5, 15, 14, 1, 9],
   [12, 5, 1, 15, 14, 13, 4, 10, 0, 7, 6, 3, 9, 2, 8, 11],
   [13, 11, 7, 14, 12, 1, 3, 9, 5, 0, 15, 4, 8, 6, 2, 10],
   [6, 15, 14, 9, 11, 3, 0, 8, 12, 2, 13, 7, 1, 4, 10, 5],
   [10, 2, 8, 4, 7, 6, 1, 5, 15, 11, 9, 14, 3, 12, 13, 0]]

def rotate (x : UInt64) (n : UInt64) : UInt64 := x >>> n ||| x <<< (64 - n)

/-- The places of the working words that are mixed together: columns, then diagonals. -/
def quarters : List (Fin 16 × Fin 16 × Fin 16 × Fin 16) :=
  [(0, 4, 8, 12), (1, 5, 9, 13), (2, 6, 10, 14), (3, 7, 11, 15),
   (0, 5, 10, 15), (1, 6, 11, 12), (2, 7, 8, 13), (3, 4, 9, 14)]

def mix (v : Words 16) (place : Fin 16 × Fin 16 × Fin 16 × Fin 16) (x y : UInt64) : Words 16 :=
  let (i, j, k, l) := place
  let a := v[i] + v[j] + x
  let d := rotate (v[l] ^^^ a) 32
  let c := v[k] + d
  let b := rotate (v[j] ^^^ c) 24
  let a := a + b + y
  let d := rotate (d ^^^ a) 16
  let c := c + d
  let b := rotate (b ^^^ c) 63
  (((v.set i a).set j b).set k c).set l d

/-- Mixes the quarters in turn, each with the next two words of the order. -/
def mixAll (m : Words 16) :
    List (Fin 16 × Fin 16 × Fin 16 × Fin 16) → List (Fin 16) → Words 16 → Words 16
  | place :: places, x :: y :: order, v => mixAll m places order (mix v place m[x] m[y])
  | _, _, v => v

/-- `count` is the number of message bytes up to the end of this block. -/
def compress (h : Words 8) (m : Words 16) (count : Nat) (last : Bool) : Words 8 :=
  let tail : Words 8 := initial
  let v : Words 16 := (h ++ tail).cast rfl
  let v := v.set 12 (v[12] ^^^ UInt64.ofNat count)
  let v := v.set 13 (v[13] ^^^ UInt64.ofNat (count >>> 64))
  let v := if last then v.set 14 (~~~v[14]) else v
  let v := (orders ++ orders.take 2).foldl (fun v order => mixAll m quarters order v) v
  Vector.ofFn fun i => h[i] ^^^ v[i.val] ^^^ v[i.val + 8]

/-- A word from its bytes, least significant first; missing ones are zero. -/
def word (bs : Bytes) : UInt64 := bs.foldr (fun b w => w <<< 8 ||| b.toUInt64) 0

def wordBytes (w : UInt64) : Bytes :=
  (List.range 8).map fun i => (w >>> UInt64.ofNat (8 * i)).toUInt8

def block (bs : Bytes) : Words 16 := Vector.ofFn fun i => word ((bs.drop (8 * i.val)).take 8)

/-- The last block is never empty unless the message is. -/
def absorb (h : Words 8) (count : Nat) (message : Bytes) : Words 8 :=
  if message.length ≤ 128 then compress h (block message) (count + message.length) true
  else absorb (compress h (block message) (count + 128) false) (count + 128) (message.drop 128)
termination_by message.length
decreasing_by simp only [List.length_drop]; omega

end Blake2b

/-- A digest of `length` bytes. -/
def blake2b (length : Nat) (message : Bytes) : Bytes :=
  let parameters : UInt64 := 0x01010000 ^^^ UInt64.ofNat length
  let h := Blake2b.initial.set 0 (Blake2b.initial[0] ^^^ parameters)
  ((Blake2b.absorb h 0 message).toList.flatMap Blake2b.wordBytes).take length

theorem length_blake2b (length : Nat) (message : Bytes) (h : length ≤ 64) :
    (blake2b length message).length = length := by
  have words (ws : List UInt64) : (ws.flatMap Blake2b.wordBytes).length = 8 * ws.length := by
    induction ws with
    | nil => rfl
    | cons w ws ih => simp [Blake2b.wordBytes, ih]; omega
  simp [blake2b, words, Vector.length_toList]
  omega

end IdentityProvider.Digest
