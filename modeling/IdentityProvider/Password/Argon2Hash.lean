import IdentityProvider.Decimal
import IdentityProvider.Error.Crypto
import IdentityProvider.Start

/-!
# Stored Argon2 hashes

A stored hash is six fields set apart by dollar signs, the first of them empty:
the tag, the version, the three costs, the salt and the derived key, the last
two in unpadded base64. The tag says `argon2i` although the variant is Argon2id;
hashes in storage have always carried it.
-/

namespace IdentityProvider.Password

structure Argon2Hash where
  params : Argon2Params
  salt : Bytes
  hash : Bytes
  deriving Repr, DecidableEq

def dollar : UInt8 := 36
def comma : UInt8 := 44
def equalsSign : UInt8 := 61

/-- "argon2i" -/
def argon2Tag : Bytes := [97, 114, 103, 111, 110, 50, 105]

/-- "$argon2i$" -/
def argon2Start : Bytes := [dollar] ++ argon2Tag ++ [dollar]

def argon2Version : UInt32 := 19

def costLetter : Argon2Cost → UInt8
  | .memory => 109
  | .iterations => 116
  | .parallelism => 112

namespace Argon2Hash

-- ----- Writing

def costField (c : Argon2Cost) (value : UInt32) : Bytes :=
  costLetter c :: equalsSign :: Decimal.ofNat value.toNat

def costFields (p : Argon2Params) : Bytes :=
  costField .memory p.memory ++ [comma] ++ costField .iterations p.iterations ++ [comma] ++
    costField .parallelism p.parallelism

def versionField (version : UInt32) : Bytes := 118 :: equalsSign :: Decimal.ofNat version.toNat

def write (h : Argon2Hash) : Bytes :=
  argon2Start ++ versionField argon2Version ++ [dollar] ++ costFields h.params ++ [dollar] ++
    Base64.encode .standard h.salt ++ [dollar] ++ Base64.encode .standard h.hash

-- ----- Reading

def invalid (f : HashFault) : Except CryptoError α := .error (.invalidHash f)

def readCost (c : Argon2Cost) (field : Option Bytes) : Except CryptoError UInt32 :=
  let value := field.bind (after? [costLetter c, equalsSign])
  match value.bind Decimal.uint32? with
  | some n => .ok n
  | none => invalid (.cost c)

def readVersion (field : Bytes) : Except CryptoError UInt32 :=
  match (after? [118, equalsSign] field).bind Decimal.uint32? with
  | some n => .ok n
  | none => invalid .version

/-- The costs are read in their order, then it is seen whether there are more fields. -/
def readCosts (field : Bytes) : Except CryptoError (UInt32 × UInt32 × UInt32) := do
  let fields := Bytes.splitOn comma field
  let m ← readCost .memory fields[0]?
  let t ← readCost .iterations fields[1]?
  let p ← readCost .parallelism fields[2]?
  if 3 < fields.length then invalid .trailingCosts else .ok (m, t, p)

def read64 (fault : Base64.Error → HashFault) (field : Bytes) : Except CryptoError Bytes :=
  match Base64.decode .standard field with
  | .ok bs => .ok bs
  | .error e => invalid (fault e)

def readFields (version costs salt hash : Bytes) : Except CryptoError Argon2Hash := do
  let found ← readVersion version
  if found ≠ argon2Version then .error (.incompatibleArgonVersion found argon2Version)
  let (m, t, p) ← readCosts costs
  let salt ← read64 .salt salt
  let hash ← read64 .hash hash
  if hash = [] then invalid .emptyHash
  if UInt32.size ≤ hash.length then invalid .hashTooLong
  let params : Argon2Params := ⟨m, t, p, UInt32.ofNat hash.length⟩
  match params.exceeded? with
  | some c => invalid (.costOutOfRange c)
  | none => .ok ⟨params, salt, hash⟩

def read (encoded : Bytes) : Except CryptoError Argon2Hash :=
  match Bytes.splitOn dollar encoded with
  | [lead, tag, version, costs, salt, hash] =>
    if lead ≠ [] ∨ tag ≠ argon2Tag then invalid .notArgon2
    else readFields version costs salt hash
  | fields => invalid (.fieldCount fields.length)

end Argon2Hash

end IdentityProvider.Password
