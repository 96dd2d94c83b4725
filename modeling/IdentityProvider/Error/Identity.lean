import IdentityProvider.Error.Crypto
import IdentityProvider.Error.Storage
import IdentityProvider.Json.Shape
import IdentityProvider.Text.Quoted
import IdentityProvider.Token.Kind

/-!
# Errors of tokens and credentials

A token that cannot be decoded is malformed; one that can be decoded and is
refused is invalid. The message may quote what the token says, never the token.
-/

namespace IdentityProvider

open Json (intText natText)

/-- The parts of a compact token, in the order in which they are decoded. -/
inductive TokenPart where
  | header
  | claims
  | signature
  deriving Repr, DecidableEq

def TokenPart.name : TokenPart → String
  | .header => "header"
  | .claims => "claims"
  | .signature => "signature"

inductive MalformedToken where
  | partCount
  | encoding (part : TokenPart) (e : Base64.Error)
  | content (part : TokenPart) (e : Json.ReadError)
  | unknownKind (name : String)
  | described (text : String)
  deriving Repr

def MalformedToken.message : MalformedToken → String
  | .partCount => "expected three dot-separated parts"
  | .encoding part e => part.name ++ ": " ++ e.message
  | .content part e => part.name ++ ": " ++ e.message
  | .unknownKind name => "unknown token type: " ++ name
  | .described text => text

inductive InvalidToken where
  | neverVerified
  | signingUnverified
  | algorithmNotAllowed (name : String)
  /-- A header that names another algorithm than the key it is to be signed with. -/
  | headerMismatch (name : String) (key : Algorithm)
  | familyMismatch (token key : Algorithm)
  | signature (e : CryptoError)
  | described (text : String)
  deriving Repr, DecidableEq

def InvalidToken.message : InvalidToken → String
  | .neverVerified => "token signature was never verified"
  | .signingUnverified => "refusing to sign an unverified token"
  | .algorithmNotAllowed name => "algorithm " ++ Text.quoted name ++ " is not allowed"
  | .headerMismatch name key =>
    "header algorithm " ++ name ++ " does not match " ++ key.name ++ " key"
  | .familyMismatch token key =>
    token.name ++ " token presented to a " ++ key.name ++ " key"
  | .signature e => e.message
  | .described text => text

inductive ConfigFault where
  | emptyIssuer
  | lifespan (kind : TokenKind) (seconds : Int64)
  | notSeconds (name value : String)
  | keyMismatch (configured key : Algorithm)
  | keyPathRequired
  | described (text : String)
  deriving Repr, DecidableEq

def ConfigFault.message : ConfigFault → String
  | .emptyIssuer => "Issuer must not be empty"
  | .lifespan kind seconds =>
    kind.name ++ " token lifespan must be positive, got " ++ intText seconds.toInt
  | .notSeconds name value => name ++ " must be a number of seconds, got " ++ value
  | .keyMismatch configured key =>
    "configured algorithm " ++ configured.name ++ " does not match " ++ key.name ++ " signing key"
  | .keyPathRequired => "private_key_path is required"
  | .described text => text

inductive IdentityError where
  | emptyToken
  | malformedToken (f : MalformedToken)
  | tokenInvalid (f : InvalidToken)
  | noExpiration
  | noIssuedAt
  | invalidAudience
  | invalidIssuer
  | invalidSubject
  | tokenTypeMismatch
  | invalidApp
  | invalidUser
  | invalidOfflineScope
  | savingToken (e : StorageError)
  | invalidCredentials
  | storage (e : StorageError)
  | crypto (e : CryptoError)
  | configuration (f : ConfigFault)
  | internal (text : String)
  deriving Repr

namespace IdentityError

def message : IdentityError → String
  | emptyToken => "Empty token"
  | malformedToken f => "Malformed token: " ++ f.message
  | tokenInvalid f => "Token is invalid: " ++ f.message
  | noExpiration => "Token is expired or has no expiration"
  | noIssuedAt => "Token has no issued-at time or was issued in the future"
  | invalidAudience => "Token audience is not accepted"
  | invalidIssuer => "Token issuer is not accepted"
  | invalidSubject => "Token subject does not match"
  | tokenTypeMismatch => "Token type mismatch"
  | invalidApp => "Invalid app"
  | invalidUser => "Invalid user"
  | invalidOfflineScope => "Refresh token requires the offline scope"
  | savingToken e => "Error saving token: " ++ e.message
  | invalidCredentials => "Invalid credentials"
  | storage e => "Storage error: " ++ e.message
  | crypto e => "Crypto error: " ++ e.message
  | configuration f => "Configuration error: " ++ f.message
  | internal text => "Internal error: " ++ text

def kind : IdentityError → ErrorKind
  | emptyToken | malformedToken _ => .malformed
  | tokenInvalid _ | noExpiration | noIssuedAt | invalidAudience | invalidIssuer | invalidSubject
  | tokenTypeMismatch => .validation
  | invalidApp | invalidUser | invalidOfflineScope => .precondition
  | invalidCredentials => .credentials
  | savingToken _ | storage _ => .storage
  | crypto e => e.kind
  | configuration _ => .configuration
  | internal _ => .internal

def code : IdentityError → String
  | emptyToken => "TOKEN_2101"
  | malformedToken _ => "TOKEN_2102"
  | tokenInvalid _ => "TOKEN_2103"
  | noExpiration => "VALIDATION_2201"
  | noIssuedAt => "VALIDATION_2202"
  | invalidAudience => "VALIDATION_2203"
  | invalidIssuer => "VALIDATION_2204"
  | invalidSubject => "VALIDATION_2205"
  | tokenTypeMismatch => "VALIDATION_2206"
  | invalidApp => "ISSUANCE_3001"
  | invalidUser => "ISSUANCE_3002"
  | invalidOfflineScope => "ISSUANCE_3003"
  | invalidCredentials => "AUTH_2002"
  | savingToken _ => "STORAGE_4001"
  | storage e => e.code
  | crypto e => e.code
  | configuration _ => "CONFIG_5004"
  | internal _ => "SYSTEM_9001"

def source? : IdentityError → Option String
  | savingToken e => some e.message
  | storage e => some e.message
  | crypto e => some e.message
  | _ => none

end IdentityError

instance : Classified IdentityError :=
  ⟨IdentityError.kind, IdentityError.code, IdentityError.message, IdentityError.source?⟩

end IdentityProvider
