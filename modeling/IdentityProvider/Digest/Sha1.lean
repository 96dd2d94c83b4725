import IdentityProvider.Digest.Padding

/-!
# SHA-1

The state is five words. A block's sixteen words are extended to eighty, mixed
into the state by four functions of twenty rounds each.
-/

namespace IdentityProvider.Digest

namespace Sha1

structure State where
  (a b c d e : UInt32)
  deriving Repr, DecidableEq

def rotate (x : UInt32) (n : UInt32) : UInt32 := x <<< n ||| x >>> (32 - n)

def initial : State := ⟨0x67452301, 0xEFCDAB89, 0x98BADCFE, 0x10325476, 0xC3D2E1F0⟩

def mix (i : Nat) (b c d : UInt32) : UInt32 :=
  if i < 20 then (b &&& c) ||| (~~~b &&& d)
  else if i < 40 then b ^^^ c ^^^ d
  else if i < 60 then (b &&& c) ||| (b &&& d) ||| (c &&& d)
  else b ^^^ c ^^^ d

def constant (i : Nat) : UInt32 :=
  if i < 20 then 0x5A827999
  else if i < 40 then 0x6ED9EBA1
  else if i < 60 then 0x8F1BBCDC
  else 0xCA62C1D6

def round (s : State) (i : Nat) (w : UInt32) : State :=
  ⟨rotate s.a 5 + mix i s.b s.c s.d + s.e + constant i + w, s.a, rotate s.b 30, s.c, s.d⟩

/-- The word that follows sixteen others. -/
def nextWord (ws : List UInt32) : UInt32 :=
  match ws with
  | [w0, _, w2, _, _, _, _, _, w8, _, _, _, _, w13, _, _] => rotate (w13 ^^^ w8 ^^^ w2 ^^^ w0) 1
  | _ => 0

def rounds : (left : Nat) → List UInt32 → State → State
  | 0, _, s => s
  | left + 1, ws, s =>
    rounds left (ws.tail ++ [nextWord ws]) (round s (79 - left) (ws.headD 0))

def compress (s : State) (block : List UInt32) : State :=
  let t := rounds 80 block s
  ⟨s.a + t.a, s.b + t.b, s.c + t.c, s.d + t.d, s.e + t.e⟩

def State.bytes (s : State) : Bytes :=
  wordBytes s.a ++ wordBytes s.b ++ wordBytes s.c ++ wordBytes s.d ++ wordBytes s.e

end Sha1

def sha1 (message : Bytes) : Bytes :=
  ((messageBlocks message).foldl Sha1.compress Sha1.initial).bytes

theorem length_sha1 (message : Bytes) : (sha1 message).length = 20 := rfl

end IdentityProvider.Digest
