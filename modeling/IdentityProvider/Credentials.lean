import IdentityProvider.Error.Identity
import IdentityProvider.Log.Event
import IdentityProvider.Password.Hash
import IdentityProvider.Storage.Records

/-!
# Credentials

A user is found by name and accepted if active and if the password belongs to
the stored hash. Every refusal looks the same: an unknown user, an inactive one,
one without a usable hash and a wrong password. Where there is no usable hash,
that of a made-up password is checked, so that the time does not tell.
-/

namespace IdentityProvider

open Password (Failure Hasher)

structure CredentialVerifier where
  hasher : Hasher
  dummy : Bytes

namespace CredentialVerifier

def dummyPassword : String := "identifo-dummy-password"

def new (hasher : Hasher) (e : Entropy) :
    Except (Failure IdentityError) CredentialVerifier × Entropy :=
  match hasher.hash e (Bytes.ofString dummyPassword) with
  | (.ok dummy, e) => (.ok ⟨hasher, dummy⟩, e)
  | (.error f, e) => (.error (f.map .crypto), e)

/-- What is reported of a numbered task that failed or stopped. -/
def taskError (task : Nat) : Failure CryptoError → IdentityError
  | .error e => .crypto e
  | .capacityOverflow => .internal ("hashing task failed: task " ++ Json.natText task ++
      " panicked with message " ++ Text.quoted "capacity overflow")

/-- Passwords are hashed in a task of their own, which stops alone. -/
def hashPassword (v : CredentialVerifier) (e : Entropy) (task : Nat) (password : String) :
    Except IdentityError String × Entropy :=
  let (hashed, e) := v.hasher.hash e (Bytes.ofString password)
  ((hashed.map Bytes.ascii).mapError (taskError task), e)

-- ----- Log

def noHash (user : User) : Event :=
  ⟨.info, "User has no password hash", [("user_id", .text user.id)]⟩

def unusableHash (user : User) (e : CryptoError) : Event :=
  report ("verify credentials of user " ++ user.id) e

def accepted (user : User) : Event := ⟨.debug, "Credentials accepted", [("user_id", .text user.id)]⟩

def rejected : Event := ⟨.info, "Credentials rejected", []⟩

-- ----- Checking

/-- The outcomes of the checks that were made, of the user's own hash and of the made-up one. -/
structure Checks where
  own : Option (Except CryptoError Bool)
  dummy : Option (Except CryptoError Bool)

def checkDummy (v : CredentialVerifier) (password : Bytes) : Except CryptoError Bool :=
  v.hasher.matchesHash password v.dummy

/-- The made-up hash is checked where there is none, and after one that cannot be
interpreted, since that took no time. -/
def checks (v : CredentialVerifier) (password : Bytes) : Option User → Checks
  | some user =>
    if user.passwordHash = "" then ⟨none, some (v.checkDummy password)⟩
    else match v.hasher.matchesHash password (Bytes.ofString user.passwordHash) with
      | .ok matched => ⟨some (.ok matched), none⟩
      | .error e => ⟨some (.error e), some (v.checkDummy password)⟩
  | none => ⟨none, some (v.checkDummy password)⟩

/-- Only a hash of the user's own can be matched. -/
def Checks.matched (c : Checks) : Bool :=
  match c.own with
  | some (.ok matched) => matched
  | _ => false

/-- What there is to say about a user's hash once it has been checked. -/
def remarks (user : User) (c : Checks) : List Event :=
  match c.own with
  | none => [noHash user]
  | some (.ok _) => []
  | some (.error e) => [unusableHash user e]

def judge (user : Option User) (c : Checks) : Logged (Except IdentityError User) :=
  match user with
  | some user =>
    if c.matched && user.active then ⟨.ok user, remarks user c ++ [accepted user]⟩
    else ⟨.error .invalidCredentials, remarks user c ++ [rejected]⟩
  | none => ⟨.error .invalidCredentials, [rejected]⟩

/-- The user behind a name, if there is one; only an outage is an error. -/
def lookUp : Except StorageError User → Except IdentityError (Option User)
  | .ok user => .ok (some user)
  | .error (.notFound _) => .ok none
  | .error e => .error (.storage e)

def verify (v : CredentialVerifier) (find : String → Except StorageError User)
    (username password : String) : Logged (Except IdentityError User) :=
  match lookUp (find username) with
  | .error e => .silent (.error e)
  | .ok user => judge user (v.checks (Bytes.ofString password) user)

end CredentialVerifier

end IdentityProvider
