import IdentityProvider.Environment
import IdentityProvider.Error.Crypto
import IdentityProvider.Json.Format

/-!
# Configuring password hashes

Parameters come as JSON or from the environment and are checked before use. The
pepper comes from the environment only; there is no hashing without it.
-/

namespace IdentityProvider.Password

open Json (Format Members Shape)

-- ----- As JSON

def HashType.shape : Shape := .choice HashType.names

def HashType.view : HashType → Fin 2
  | .argon2i => ⟨0, Nat.two_pos⟩
  | .bcrypt => ⟨1, Nat.one_lt_two⟩

def HashType.build : Fin 2 → HashType
  | 0 => .argon2i
  | 1 => .bcrypt

def Argon2Params.shape : Shape :=
  .record "Argon2Params"
    (.required "memory" (.integer .uint32) <| .required "iterations" (.integer .uint32) <|
      .required "parallelism" (.integer .uint32) <| .required "key_length" (.integer .uint32) .nil)

def BcryptParams.shape : Shape :=
  .record "BcryptParams" (.absentable "cost" (.integer .uint32) .nil)

def HashParams.shape : Shape :=
  .record "PasswordHashParams"
    (.absentable "hash_type" HashType.shape <| .absentable "salt_length" (.integer .uint64) <|
      .absentable "argon" (.optional Argon2Params.shape) <|
      .absentable "bcrypt" (.optional BcryptParams.shape) .nil)

def Argon2Params.view (p : Argon2Params) : Argon2Params.shape.Value :=
  (p.memory, p.iterations, p.parallelism, p.keyLength, ())

def Argon2Params.build : Argon2Params.shape.Value → Argon2Params
  | (memory, iterations, parallelism, keyLength, ()) =>
    ⟨memory, iterations, parallelism, keyLength⟩

def BcryptParams.view (p : BcryptParams) : BcryptParams.shape.Value := (some p.cost, ())

def BcryptParams.build : BcryptParams.shape.Value → BcryptParams
  | (cost, ()) => ⟨cost.getD defaultBcrypt.cost⟩

def HashParams.format : Format HashParams where
  shape := HashParams.shape
  view p := (some p.hashType.view, some p.saltLength, some (p.argon.map Argon2Params.view),
    some (p.bcrypt.map BcryptParams.view), ())
  build
    | (hashType, saltLength, argon, bcrypt, ()) =>
      { hashType := (hashType.map HashType.build).getD .argon2i
        saltLength := saltLength.getD defaultSaltLength
        argon := (argon.map fun p => p.map Argon2Params.build).getD (some defaultArgon2)
        bcrypt := (bcrypt.map fun p => p.map BcryptParams.build).getD (some defaultBcrypt) }

theorem HashType.build_view (t : HashType) : build t.view = t := by
  cases t <;> rfl

theorem HashParams.build_view (p : HashParams) : format.build (format.view p) = p := by
  obtain ⟨hashType, saltLength, argon, bcrypt⟩ := p
  show HashParams.mk (.build hashType.view) saltLength
    ((argon.map Argon2Params.view).map Argon2Params.build)
    ((bcrypt.map BcryptParams.view).map BcryptParams.build) = _
  rw [HashType.build_view]
  cases argon <;> cases bcrypt <;> rfl

-- ----- Checks

def checkArgon2 (p : HashParams) : Except CryptoError Unit :=
  match p.argon with
  | none => .error (.hashParamsMissing HashType.argon2i.name)
  | some argon =>
    if p.saltLength < minSaltLength then .error (.configuration (.saltLength p.saltLength))
    else match argon.fault?, argon.exceeded? with
      | some f, _ => .error (.configuration (.argon2 f))
      | none, some c => .error (.configuration (.costAboveBound c))
      | none, none => .ok ()

def checkBcrypt (p : HashParams) : Except CryptoError Unit :=
  match p.bcrypt with
  | none => .error (.hashParamsMissing HashType.bcrypt.name)
  | some bcrypt =>
    if bcryptCostOk bcrypt.cost then .ok () else .error (.configuration (.bcryptCost bcrypt.cost))

/-- Only what the chosen type needs is checked. -/
def HashParams.validate (p : HashParams) : Except CryptoError Unit :=
  match p.hashType with
  | .argon2i => checkArgon2 p
  | .bcrypt => checkBcrypt p

-- ----- From the environment

def setting (env : Environment) (name : String) (read? : Bytes → Option α) (default : α) :
    Except CryptoError α := do
  let value ← env.read name read? fun text => CryptoError.configuration (.badValue name text)
  .ok (value.getD default)

def hashTypeSetting (env : Environment) : Except CryptoError HashType :=
  match env.text? "PASSWORD_HASH_TYPE" with
  | none => .ok .argon2i
  | some name =>
    match HashType.ofName? name with
    | some t => .ok t
    | none => .error (.unknownPasswordHashType name)

def HashParams.ofEnvironment (env : Environment) : Except CryptoError HashParams := do
  let hashType ← hashTypeSetting env
  let saltLength ← setting env "PASSWORD_SALT_LENGTH" Decimal.uint64? defaultSaltLength
  let memory ← setting env "ARGON2_MEMORY" Decimal.uint32? defaultArgon2.memory
  let iterations ← setting env "ARGON2_ITERATIONS" Decimal.uint32? defaultArgon2.iterations
  let parallelism ← setting env "ARGON2_PARALLELISM" Decimal.uint32? defaultArgon2.parallelism
  let keyLength ← setting env "ARGON2_KEY_LENGTH" Decimal.uint32? defaultArgon2.keyLength
  let cost ← setting env "BCRYPT_COST" Decimal.uint32? defaultBcrypt.cost
  let params : HashParams :=
    ⟨hashType, saltLength, some ⟨memory, iterations, parallelism, keyLength⟩, some ⟨cost⟩⟩
  params.validate
  .ok params

structure Config where
  params : HashParams
  pepper : String
  deriving DecidableEq

def Config.ofEnvironment (env : Environment) : Except CryptoError Config := do
  let params ← HashParams.ofEnvironment env
  match env.text? "PASSWORD_PEPPER" with
  | some pepper => .ok ⟨params, pepper⟩
  | none => .error (.configuration .pepperRequired)

-- ----- As text for the developer

def shown (fields : List (String × String)) : String :=
  " \x7b " ++ Json.commaSeparated (fields.map fun f => f.1 ++ ": " ++ f.2) ++ " \x7d"

def shownOption : Option String → String
  | none => "None"
  | some s => "Some(" ++ s ++ ")"

def shownWord (n : UInt32) : String := Json.natText n.toNat

def Argon2Params.shown (p : Argon2Params) : String :=
  "Argon2Params" ++ Password.shown [("memory", shownWord p.memory),
    ("iterations", shownWord p.iterations), ("parallelism", shownWord p.parallelism),
    ("key_length", shownWord p.keyLength)]

def HashType.shown : HashType → String
  | .argon2i => "Argon2i"
  | .bcrypt => "Bcrypt"

def HashParams.shown (p : HashParams) : String :=
  "PasswordHashParams" ++ Password.shown [("hash_type", p.hashType.shown),
    ("salt_length", Json.natText p.saltLength.toNat),
    ("argon", shownOption (p.argon.map Argon2Params.shown)),
    ("bcrypt", shownOption (p.bcrypt.map fun b =>
      "BcryptParams" ++ Password.shown [("cost", shownWord b.cost)]))]

/-- The pepper never shows. -/
def Config.shown (c : Config) : String :=
  "PasswordConfig" ++ Password.shown [("params", c.params.shown),
    ("pepper", Text.quoted "[REDACTED]")]

end IdentityProvider.Password
