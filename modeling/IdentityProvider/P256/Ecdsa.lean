import IdentityProvider.Digest.Hmac
import IdentityProvider.P256

/-!
# ECDSA over P-256 and SHA-256

The nonce of a signature is drawn from the key and the message by a chain of
keyed digests, so signing twice gives the same bytes. A signature is the pair
of its two scalars, thirty-two bytes each.
-/

namespace IdentityProvider.P256

open Digest (sha256 hmacSha256)

structure Signature where
  r : Scalar
  s : Scalar
  deriving DecidableEq

def Signature.write (sig : Signature) : Bytes := sig.r.bytes ++ sig.s.bytes

def Signature.read (bs : Bytes) : Option Signature := do
  if bs.length = 2 * coordinateSize then
    let r ← Scalar.ofNat? (Bytes.toNat (bs.take coordinateSize))
    let s ← Scalar.ofNat? (Bytes.toNat (bs.drop coordinateSize))
    some ⟨r, s⟩
  else none

/-- The number that is signed in place of a message. -/
def digestNumber (message : Bytes) : Nat := Bytes.toNat (sha256 message) % order

-- ----- The nonce

/-- The state of the generator that nonces are drawn from. -/
structure Drawing where
  key : Bytes
  value : Bytes

def Drawing.mix (d : Drawing) (extra : Bytes) : Drawing :=
  let key := hmacSha256 d.key (d.value ++ extra)
  ⟨key, hmacSha256 key d.value⟩

def Drawing.start (secret : Scalar) (z : Nat) : Drawing :=
  let seed := secret.bytes ++ coordinate z
  ((Drawing.mk (List.replicate 32 0) (List.replicate 32 1)).mix (0 :: seed)).mix (1 :: seed)

/-- The next value that is a scalar; all but one in four thousand million are. -/
def Drawing.scalar? : (tries : Nat) → Drawing → Option Scalar
  | 0, _ => none
  | tries + 1, d =>
    let value := hmacSha256 d.key d.value
    match Scalar.ofNat? (Bytes.toNat value) with
    | some k => some k
    | none => Drawing.scalar? tries (Drawing.mix ⟨d.key, value⟩ [0])

def nonce? (secret : Scalar) (z : Nat) : Option Scalar := (Drawing.start secret z).scalar? 64

-- ----- Signing and verifying

def sign (secret : Scalar) (message : Bytes) : Option Signature := do
  let z := digestNumber message
  let k ← nonce? secret z
  let r ← Scalar.ofNat? (k.point.x % order)
  let i ← Modular.inverse? k.val order
  let s ← Scalar.ofNat? (i * (z + r.val * secret.val) % order)
  some ⟨r, s⟩

def verifies (key : Point) (message : Bytes) (sig : Signature) : Bool :=
  match Modular.inverse? sig.s.val order with
  | none => false
  | some i =>
    let u := digestNumber message * i % order
    let v := sig.r.val * i % order
    match ((multiple u base).add (multiple v key)).toPoint? with
    | some p => p.x % order == sig.r.val
    | none => false

end IdentityProvider.P256
