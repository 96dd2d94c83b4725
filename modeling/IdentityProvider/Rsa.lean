import IdentityProvider.Digest.Sha256
import IdentityProvider.Error.Crypto
import IdentityProvider.Modular

/-!
# RSA with PKCS #1 v1.5 padding over SHA-256

The padded digest of a message is raised to the private exponent; a signature
is valid if the public exponent takes it back. A private key works modulo its
two primes where it can, and checks its own signature before giving it out.
-/

namespace IdentityProvider.Rsa

structure PublicKey where
  n : Nat
  e : Nat
  deriving Repr, DecidableEq

structure PrivateKey where
  n : Nat
  e : Nat
  d : Nat
  p : Nat
  q : Nat
  deriving Repr, DecidableEq

def maxPublicExponent : Nat := 0x1ffffffff

/-- The bits of the modulus of a new key. -/
def newKeyBits : Nat := 2048

/-- The most bits that the modulus of a public key may have. -/
def maxPublicBits : Nat := 4096

def PublicKey.isSound (k : PublicKey) : Bool :=
  k.n % 2 == 1 && k.e % 2 == 1 && 2 ≤ k.e && k.e ≤ maxPublicExponent && k.e < k.n

def PublicKey.isShort (k : PublicKey) : Bool := k.n < 1 <<< maxPublicBits

def PrivateKey.publicKey (k : PrivateKey) : PublicKey := ⟨k.n, k.e⟩

/-- The factors give the modulus, and the exponents undo each other modulo each of them. -/
def PrivateKey.isSound (k : PrivateKey) : Bool :=
  k.publicKey.isSound && 1 < k.p && 1 < k.q && k.p * k.q == k.n &&
    k.d * k.e % (k.p - 1) == 1 && k.d * k.e % (k.q - 1) == 1

/-- The inverse of the second factor modulo the first; there is none if they are equal. -/
def PrivateKey.coefficient? (k : PrivateKey) : Option Nat := Modular.inverse? k.q k.p

-- ----- Padding

/-- How many bytes a signature has. -/
def PublicKey.size (k : PublicKey) : Nat := Bytes.digitCount k.n

/-- Names SHA-256 in front of its digest. -/
def digestName : Bytes :=
  [0x30, 0x31, 0x30, 0x0d, 0x06, 0x09, 0x60, 0x86, 0x48, 0x01, 0x65, 0x03, 0x04, 0x02, 0x01, 0x05,
   0x00, 0x04, 0x20]

/-- At least eight bytes of filling, and three that mark where it begins and ends. -/
def minPadding : Nat := 11

def padded? (size : Nat) (message : Bytes) : Option Bytes :=
  let named := digestName ++ Digest.sha256 message
  if named.length + minPadding ≤ size then
    some ([0, 1] ++ List.replicate (size - named.length - 3) 0xff ++ 0 :: named)
  else none

-- ----- Signing and verifying

def PublicKey.raise (k : PublicKey) (m : Nat) : Nat := Modular.pow m k.e k.n

def PrivateKey.raise (k : PrivateKey) (c : Nat) : Nat :=
  match k.coefficient? with
  | none => Modular.pow c k.d k.n
  | some inverse =>
    let mp := Modular.pow c (k.d % (k.p - 1)) k.p
    let mq := Modular.pow c (k.d % (k.q - 1)) k.q
    (mp + (k.p - mq % k.p)) * inverse % k.p * k.q + mq

def PrivateKey.sign (k : PrivateKey) (message : Bytes) : Except SignatureFault Bytes :=
  let size := k.publicKey.size
  match padded? size message with
  | none => .error .messageTooLong
  | some em =>
    let c := Bytes.toNat em
    let m := k.raise c
    if k.publicKey.raise m = c then .ok (Bytes.ofNat size m) else .error .internal

def PublicKey.verifies (k : PublicKey) (message signature : Bytes) : Bool :=
  let s := Bytes.toNat signature
  signature.length == k.size && s < k.n &&
    padded? k.size message == some (Bytes.ofNat k.size (k.raise s))

end IdentityProvider.Rsa
