import IdentityProvider.Argon2.Derive
import IdentityProvider.Bcrypt.Derive
import IdentityProvider.Digest.Hmac
import IdentityProvider.Entropy
import IdentityProvider.Password.BcryptHash

/-!
# Hashing and checking passwords

A password is hashed with a salt of its own and a pepper that the server keeps:
with Argon2 the pepper follows the salt, with bcrypt it keys a digest of the
password. A new bcrypt string is wrapped in base64 once more; on checking, a
bare one is accepted too. A wrong password is no error; errors say that the
stored hash cannot be interpreted. Memory is taken to suffice for the costs and
lengths that are asked for, but there is a length that nothing can have.
-/

namespace IdentityProvider.Password

/-- The two functions that cost time. -/
structure HashSuite where
  argon2 : Argon2Params → (password salt : Bytes) → Bytes
  bcrypt : (cost : UInt32) → (salt password : Bytes) → Bytes

def Argon2Params.costs (p : Argon2Params) : Argon2.Costs :=
  ⟨p.memory.toNat, p.iterations.toNat, p.parallelism.toNat, p.keyLength.toNat⟩

def HashSuite.standard : HashSuite where
  argon2 p password salt := Argon2.derive p.costs password salt
  bcrypt cost salt password := Bcrypt.derive cost.toNat salt password

-- ----- Telling hashes apart

inductive HashKind where
  | argon2i
  | bcrypt
  | wrappedBcrypt
  deriving Repr, DecidableEq

/-- The bcrypt string inside a wrapping, which must be text. -/
def unwrap? (encoded : Bytes) : Option Bytes :=
  match Base64.decode .standard encoded with
  | .ok inner =>
    if inner.toString?.isSome ∧ (after? bcryptStart inner).isSome then some inner else none
  | .error _ => none

def HashKind.detect (encoded : Bytes) : Except CryptoError HashKind :=
  if (after? argon2Start encoded).isSome then .ok .argon2i
  else if (after? bcryptStart encoded).isSome then .ok .bcrypt
  else if (unwrap? encoded).isSome then .ok .wrappedBcrypt
  else .error (.unknownPasswordHashType "unrecognized hash prefix")

-- ----- Deriving keys

def minSaltedLength : Nat := 8

/-- What Argon2 has against its inputs, whose lengths it counts in 32 bits. -/
def inputFault? (password salted : Bytes) : Option Argon2Fault :=
  if UInt32.size ≤ password.length then some .passwordTooLong
  else if salted.length < minSaltedLength then some .saltTooShort
  else if UInt32.size ≤ salted.length then some .saltTooLong
  else none

/-- The parameters are checked before the inputs. -/
def deriveArgon2 (suite : HashSuite) (p : Argon2Params) (password salt pepper : Bytes) :
    Except DerivationFault Bytes :=
  match p.fault?.or (inputFault? password (salt ++ pepper)) with
  | some f => .error (.argon2 f)
  | none => .ok (suite.argon2 p password (salt ++ pepper))

/-- The password under the pepper, as bcrypt gets it. -/
def peppered (password pepper : Bytes) : Bytes := Digest.hmacSha256 pepper password

def deriveBcrypt (suite : HashSuite) (cost : UInt32) (password salt pepper : Bytes) :
    Except DerivationFault Bytes :=
  if bcryptCostOk cost then .ok (suite.bcrypt cost salt (peppered password pepper))
  else .error (.bcryptCost cost)

-- ----- Hashing

def hashArgon2 (suite : HashSuite) (params : HashParams) (password salt pepper : Bytes) :
    Except CryptoError Bytes :=
  match params.argon with
  | none => .error (.hashParamsMissing HashType.argon2i.name)
  | some p =>
    match deriveArgon2 suite p password salt pepper with
    | .ok key => .ok (Argon2Hash.write ⟨p, salt, key⟩)
    | .error f => .error (.keyDerivationFailed f)

def hashBcrypt (suite : HashSuite) (params : HashParams) (password salt pepper : Bytes) :
    Except CryptoError Bytes :=
  match params.bcrypt with
  | none => .error (.hashParamsMissing HashType.bcrypt.name)
  | some p =>
    match deriveBcrypt suite p.cost password salt pepper with
    | .ok checksum =>
      .ok (Base64.encode .standard (BcryptHash.write ⟨.a, p.cost, salt⟩ checksum))
    | .error f => .error (.keyDerivationFailed f)

/-- An error, or a length that no list of bytes can have, at which the program stops. -/
inductive Failure (ε : Type) where
  | error (e : ε)
  | capacityOverflow
  deriving Repr, DecidableEq

def Failure.map (f : ε → δ) : Failure ε → Failure δ
  | .error e => .error (f e)
  | .capacityOverflow => .capacityOverflow

/-- So many bytes can stand one behind the other, and no more. -/
def maxLength : Nat := 0x7fffffffffffffff

def generateSalt (supply : Supply σ) (s : σ) (length : Nat) : Except (Failure ε) Bytes × σ :=
  if maxLength < length then (.error .capacityOverflow, s)
  else
    let (salt, s) := supply.draw s length
    (.ok salt, s)

/-- Hashes a password with a fresh salt. One of the configured length is drawn for either type;
bcrypt then draws its own. -/
def hash (suite : HashSuite) (params : HashParams) (supply : Supply σ) (s : σ)
    (password pepper : Bytes) : Except (Failure CryptoError) Bytes × σ :=
  match generateSalt supply s params.saltLength.toNat with
  | (.error f, s) => (.error f, s)
  | (.ok salt, s) =>
    match params.hashType with
    | .argon2i => ((hashArgon2 suite params password salt pepper).mapError .error, s)
    | .bcrypt =>
      let (salt, s) := supply.draw s bcryptSaltSize
      ((hashBcrypt suite params password salt pepper).mapError .error, s)

-- ----- Checking

def matchesArgon2 (suite : HashSuite) (password encoded pepper : Bytes) :
    Except CryptoError Bool := do
  let stored ← Argon2Hash.read encoded
  match deriveArgon2 suite stored.params password stored.salt pepper with
  | .ok key => .ok (Bytes.equalInFull key stored.hash)
  | .error f => .error (.invalidHash (.derivation f))

def matchesBcrypt (suite : HashSuite) (password encoded pepper : Bytes) :
    Except CryptoError Bool := do
  let stored ← BcryptHash.read encoded
  match deriveBcrypt suite stored.cost password stored.salt pepper with
  | .ok checksum => .ok (Bytes.equalInFull (stored.write checksum) encoded)
  | .error _ => .error (.invalidHash (.bcryptCost stored.cost))

/-- Whether a password belongs to a stored hash. -/
def matchesHash (suite : HashSuite) (password encoded pepper : Bytes) :
    Except CryptoError Bool := do
  match ← HashKind.detect encoded with
  | .argon2i => matchesArgon2 suite password encoded pepper
  | .bcrypt => matchesBcrypt suite password encoded pepper
  | .wrappedBcrypt =>
    match unwrap? encoded with
    | some inner => matchesBcrypt suite password inner pepper
    | none => .error (.invalidHash (.described "bad bcrypt wrapping"))

-- ----- A hasher for one configuration

structure Hasher where
  suite : HashSuite
  params : HashParams
  pepper : Bytes

def Hasher.hash (h : Hasher) (e : Entropy) (password : Bytes) :
    Except (Failure CryptoError) Bytes × Entropy :=
  Password.hash h.suite h.params Entropy.supply e password h.pepper

def Hasher.matchesHash (h : Hasher) (password encoded : Bytes) : Except CryptoError Bool :=
  Password.matchesHash h.suite password encoded h.pepper

end IdentityProvider.Password
