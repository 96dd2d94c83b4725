import IdentityProvider.Password.Argon2Hash

/-!
# Stored bcrypt hashes

A bcrypt string is a version, a cost and a body of fifty-three characters set
apart by dollar signs. The body begins with twenty-two characters of salt; the
rest is the checksum. Only the salt is decoded: the rest is compared as text.
-/

namespace IdentityProvider.Password

inductive BcryptVersion where
  | a
  | b
  | x
  | y
  deriving Repr, DecidableEq

def BcryptVersion.letter : BcryptVersion → UInt8
  | .a => 97
  | .b => 98
  | .x => 120
  | .y => 121

/-- "2a" and its like. -/
def BcryptVersion.tag (v : BcryptVersion) : Bytes := [50, v.letter]

def BcryptVersion.all : List BcryptVersion := [.a, .b, .x, .y]

def BcryptVersion.ofTag? (tag : Bytes) : Option BcryptVersion :=
  BcryptVersion.all.find? fun v => v.tag = tag

structure BcryptHash where
  version : BcryptVersion
  cost : UInt32
  salt : Bytes
  deriving Repr, DecidableEq

/-- "$2" -/
def bcryptStart : Bytes := [dollar, 50]

def bodyLength : Nat := 53
def saltTextLength : Nat := 22
def bcryptSaltSize : Nat := 16

namespace BcryptHash

def twoDigits (n : Nat) : Bytes :=
  if n < 10 then 48 :: Decimal.ofNat n else Decimal.ofNat n

/-- The string for a hash and its checksum. -/
def write (h : BcryptHash) (checksum : Bytes) : Bytes :=
  [dollar] ++ h.version.tag ++ [dollar] ++ twoDigits h.cost.toNat ++ [dollar] ++
    Base64.encode .bcrypt h.salt ++ Base64.encode .bcrypt checksum

def invalid (f : BcryptFault) : Except CryptoError α := .error (.invalidHash (.bcrypt f))

def readSalt (text : Bytes) : Except CryptoError Bytes :=
  match Base64.decode .bcrypt text with
  | .ok salt => if salt.length = bcryptSaltSize then .ok salt else invalid .salt
  | .error _ => invalid .salt

def readFields (version cost body : Bytes) : Except CryptoError BcryptHash := do
  let some version := BcryptVersion.ofTag? version | invalid .version
  let some cost := Decimal.uint32? cost | invalid .cost
  if body.length ≠ bodyLength then invalid .length
  let salt ← readSalt (body.take saltTextLength)
  .ok ⟨version, cost, salt⟩

def read (encoded : Bytes) : Except CryptoError BcryptHash :=
  match Bytes.splitOn dollar encoded with
  | [[], version, cost, body] => readFields version cost body
  | _ => invalid .fieldCount

end BcryptHash

end IdentityProvider.Password
