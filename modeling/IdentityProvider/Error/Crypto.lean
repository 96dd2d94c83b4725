import IdentityProvider.Base64
import IdentityProvider.Error.Kind
import IdentityProvider.Json.Number
import IdentityProvider.Password.Params

/-!
# Errors of keys and password hashes

Each error keeps its cause; the wording is in the `message` functions. A
`described` cause is one that came in words.
-/

namespace IdentityProvider

open Json (natText)
open Password (Argon2Cost Argon2Fault HashType)

inductive KeyPart where
  | privateKey
  | publicKey
  deriving Repr, DecidableEq

def KeyPart.name : KeyPart → String
  | .privateKey => "private key"
  | .publicKey => "public key"

inductive AlgorithmFault where
  | unknownName (name : String)
  /-- A key of unknown family that is of none. -/
  | noMatch
  | noneToGenerate
  | described (text : String)
  deriving Repr, DecidableEq

def AlgorithmFault.message : AlgorithmFault → String
  | .unknownName name => name ++ ". Valid options: ES256, RS256, auto"
  | .noMatch => "key matches none of ES256, RS256"
  | .noneToGenerate => "cannot generate a key for auto"
  | .described text => text

inductive KeyFault where
  | notUtf8
  | undecodable (a : Algorithm) (part : KeyPart)
  /-- A key that can be read and used but not be written. -/
  | malformedMaterial
  /-- A key whose document has more bytes than a length can count. -/
  | tooLong (part : KeyPart)
  | described (text : String)
  deriving Repr, DecidableEq

def KeyFault.message : KeyFault → String
  | .notUtf8 => "PEM is not valid UTF-8"
  | .undecodable a part => a.name ++ " " ++ part.name
  | .malformedMaterial => "PKCS#8 cryptographic key data malformed"
  | .tooLong .privateKey => "PKCS#8 ASN.1 error: integer overflow"
  | .tooLong .publicKey => "ASN.1 error: integer overflow"
  | .described text => text

inductive SignatureFault where
  /-- A signature of the wrong form, or that does not belong to the message. -/
  | plain
  | verification
  | messageTooLong
  | internal
  | described (text : String)
  deriving Repr, DecidableEq

def SignatureFault.message : SignatureFault → String
  | .plain => "signature error"
  | .verification => "signature error: verification error"
  | .messageTooLong => "signature error: message too long"
  | .internal => "signature error: internal error"
  | .described text => text

inductive DerivationFault where
  | argon2 (f : Argon2Fault)
  | bcryptCost (cost : UInt32)
  | described (text : String)
  deriving Repr, DecidableEq

def DerivationFault.message : DerivationFault → String
  | .argon2 f => f.message
  | .bcryptCost cost => "Cost needs to be between 4 and 31, got " ++ natText cost.toNat
  | .described text => text

inductive BcryptFault where
  | fieldCount
  | version
  | cost
  | length
  | salt
  deriving Repr, DecidableEq

def BcryptFault.message : BcryptFault → String
  | .fieldCount => "expected 4 fields"
  | .version => "unknown version"
  | .cost => "bad cost"
  | .length => "bad length"
  | .salt => "bad salt"

/-- Why a stored hash cannot be read. -/
inductive HashFault where
  | fieldCount (count : Nat)
  | notArgon2
  | version
  | cost (c : Argon2Cost)
  | trailingCosts
  | salt (e : Base64.Error)
  | hash (e : Base64.Error)
  | emptyHash
  | hashTooLong
  | costOutOfRange (c : Argon2Cost)
  | bcrypt (f : BcryptFault)
  | bcryptCost (cost : UInt32)
  /-- The parameters in the hash are none that Argon2 accepts. -/
  | derivation (f : DerivationFault)
  | described (text : String)
  deriving Repr, DecidableEq

def derivationFailed : String := "Key derivation failed: "

def HashFault.message : HashFault → String
  | .fieldCount count => "expected 6 fields, got " ++ natText count
  | .notArgon2 => "not an argon2i hash"
  | .version => "bad version field"
  | .cost c => "bad " ++ c.letter ++ " cost"
  | .trailingCosts => "trailing cost fields"
  | .salt e => "salt: " ++ e.message
  | .hash e => "hash: " ++ e.message
  | .emptyHash => "empty hash"
  | .hashTooLong => "hash too long"
  | .costOutOfRange c => c.name ++ " cost out of range"
  | .bcrypt f => "bcrypt: " ++ f.message
  | .bcryptCost n => (DerivationFault.bcryptCost n).message
  | .derivation f => derivationFailed ++ f.message
  | .described text => text

/-- Why hash parameters cannot be used. -/
inductive HashConfigFault where
  | badValue (name value : String)
  | saltLength (length : UInt64)
  | argon2 (f : Argon2Fault)
  | costAboveBound (c : Argon2Cost)
  | bcryptCost (cost : UInt32)
  | pepperRequired
  | described (text : String)
  deriving Repr, DecidableEq

def HashConfigFault.message : HashConfigFault → String
  | .badValue name value => name ++ " is not a valid value: " ++ value
  | .saltLength length =>
    "Salt length must be at least 8 bytes, got " ++ natText length.toNat
  | .argon2 f => "Invalid argon2 parameters: " ++ f.message
  | .costAboveBound c => "argon2 " ++ c.name ++ " cost is above the supported maximum"
  | .bcryptCost cost => "bcrypt cost must be between 4 and 31, got " ++ natText cost.toNat
  | .pepperRequired => "PASSWORD_PEPPER is required"
  | .described text => text

inductive CryptoError where
  | keyFileNotFound (path : String)
  | keyFileUnreadable (path reason : String)
  | unsupportedSignatureAlgorithm (f : AlgorithmFault)
  | invalidKey (f : KeyFault)
  | keyGenerationFailed (text : String)
  | signingFailed (f : SignatureFault)
  | signatureVerificationFailed (f : SignatureFault)
  | hashParamsMissing (hashType : String)
  | unknownPasswordHashType (name : String)
  | incompatibleArgonVersion (found expected : UInt32)
  | invalidHash (f : HashFault)
  | keyDerivationFailed (f : DerivationFault)
  | configuration (f : HashConfigFault)
  deriving Repr, DecidableEq

namespace CryptoError

def message : CryptoError → String
  | keyFileNotFound path => "Key file not found: " ++ path
  | keyFileUnreadable path reason => "Unable to read key file " ++ path ++ ": " ++ reason
  | unsupportedSignatureAlgorithm f => "Unsupported signature algorithm: " ++ f.message
  | invalidKey f => "Invalid key: " ++ f.message
  | keyGenerationFailed text => "Key generation failed: " ++ text
  | signingFailed f => "Signing failed: " ++ f.message
  | signatureVerificationFailed f => "Signature verification failed: " ++ f.message
  | hashParamsMissing hashType => "Password hash parameters missing for " ++ hashType
  | unknownPasswordHashType name => "Unknown password hash type: " ++ name
  | incompatibleArgonVersion found expected =>
    "Incompatible argon2 version " ++ natText found.toNat ++ ", expected " ++
      natText expected.toNat
  | invalidHash f => "Invalid password hash: " ++ f.message
  | keyDerivationFailed f => derivationFailed ++ f.message
  | configuration f => "Configuration error: " ++ f.message

def kind : CryptoError → ErrorKind
  | keyFileNotFound _ | keyFileUnreadable .. | unsupportedSignatureAlgorithm _ | invalidKey _
  | hashParamsMissing _ | configuration _ => .configuration
  | signatureVerificationFailed _ => .validation
  | unknownPasswordHashType _ | incompatibleArgonVersion .. | invalidHash _
  | keyGenerationFailed _ | signingFailed _ | keyDerivationFailed _ => .internal

def code : CryptoError → String
  | keyFileNotFound _ | keyFileUnreadable .. => "CONFIG_5001"
  | unsupportedSignatureAlgorithm _ => "CONFIG_5002"
  | invalidKey _ => "CONFIG_5003"
  | configuration _ => "CONFIG_5004"
  | hashParamsMissing _ => "ISSUANCE_3004"
  | unknownPasswordHashType _ => "PASSWORD_3101"
  | incompatibleArgonVersion .. => "PASSWORD_3102"
  | invalidHash _ => "PASSWORD_3103"
  | signatureVerificationFailed _ => "TOKEN_2103"
  | keyGenerationFailed _ | signingFailed _ | keyDerivationFailed _ => "SYSTEM_9001"

end CryptoError

instance : Classified CryptoError :=
  ⟨CryptoError.kind, CryptoError.code, CryptoError.message, fun _ => none⟩

end IdentityProvider
