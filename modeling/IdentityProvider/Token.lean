import IdentityProvider.Error.Identity
import IdentityProvider.Key.Scheme
import IdentityProvider.Token.Claims

/-!
# Tokens

A compact token has three parts between dots: header, claims and signature, each
in base64. A token remembers how it came to be. One that was issued here, or
whose signature was verified, is trusted; one that was only decoded is not, and
is never signed again.
-/

namespace IdentityProvider

inductive Trust where
  | fresh
  | verified
  | unverified
  deriving Repr, DecidableEq

def Trust.name : Trust → String
  | .fresh => "Fresh"
  | .verified => "Verified"
  | .unverified => "Unverified"

structure Token where
  header : Header
  claims : Claims
  signature : Bytes
  trust : Trust

/-- A token and the compact form in which it was handed out. -/
structure SignedToken where
  token : Token
  compact : Bytes

namespace Token

def new (choice : AlgorithmChoice) (kid : String) (claims : Claims) : Token :=
  ⟨.new choice kid, claims, [], .fresh⟩

def isTrusted (t : Token) : Bool := t.trust = .fresh || t.trust = .verified

/-- The same token for another key. -/
def restamp (t : Token) (a : Algorithm) (kid : String) : Token :=
  { t with header := { t.header with alg := a.name, kid }, claims := { t.claims with kid } }

def dot : UInt8 := 46

-- ----- Signing

def encodePart (f : Json.Format α) (a : α) : Bytes := Base64.encode .url (f.encode a)

/-- What the signature is over. -/
def signingInput (t : Token) : Bytes :=
  encodePart Header.format t.header ++ dot :: encodePart Claims.format t.claims

variable [VerifyingKey P] [SigningKey K P]

/-- Why a token may not be signed with a key. -/
def refusal? (t : Token) (a : Algorithm) : Option InvalidToken :=
  if ¬ t.isTrusted then some .signingUnverified
  else if t.header.algorithm? ≠ some a then some (.headerMismatch t.header.alg a)
  else none

def sign (t : Token) (key : K) : Except IdentityError Bytes :=
  match t.refusal? (SigningKey.algorithm key) with
  | some f => .error (.tokenInvalid f)
  | none =>
    match SigningKey.sign key t.signingInput with
    | .ok signature => .ok (t.signingInput ++ dot :: Base64.encode .url signature)
    | .error f => .error (.crypto (.signingFailed f))

-- ----- Decoding

/-- Exactly three parts. -/
def split (compact : Bytes) : Except IdentityError (Bytes × Bytes × Bytes) :=
  if compact = [] then .error .emptyToken
  else match Bytes.splitOn dot compact with
    | [header, claims, signature] => .ok (header, claims, signature)
    | _ => .error (.malformedToken .partCount)

def decodeBytes (part : TokenPart) (text : Bytes) : Except IdentityError Bytes :=
  match Base64.decode .url text with
  | .ok bytes => .ok bytes
  | .error e => .error (.malformedToken (.encoding part e))

def decodePart (part : TokenPart) (f : Json.Format α) (text : Bytes) : Except IdentityError α := do
  let bytes ← decodeBytes part text
  match f.decode bytes with
  | .ok a => .ok a
  | .error e => .error (.malformedToken (.content part e))

/-- Decodes the parts in their order and checks no signature. -/
def parseUnverified (compact : Bytes) : Except IdentityError Token := do
  let (header, claims, signature) ← split compact
  let header ← decodePart .header Header.format header
  let claims ← decodePart .claims Claims.format claims
  let signature ← decodeBytes .signature signature
  .ok ⟨header, claims, signature, .unverified⟩

-- ----- Verifying

/-- What stands before the last dot. -/
def signedPart (compact : Bytes) : Bytes :=
  ((compact.reverse.dropWhile (· ≠ dot)).drop 1).reverse

/-- The algorithm must be an allowed one and the key's before the signature is looked at. -/
def checkSignature (t : Token) (signed : Bytes) (key : P) : Except InvalidToken Unit :=
  match t.header.algorithm? with
  | none => .error (.algorithmNotAllowed t.header.alg)
  | some a =>
    if a ≠ VerifyingKey.algorithm key then .error (.familyMismatch a (VerifyingKey.algorithm key))
    else match VerifyingKey.verify key signed t.signature with
      | .ok () => .ok ()
      | .error f => .error (.signature (.signatureVerificationFailed f))

def parseAndVerify (compact : Bytes) (key : P) : Except IdentityError Token := do
  let t ← parseUnverified compact
  match t.checkSignature (signedPart compact) key with
  | .ok () => .ok { t with trust := .verified }
  | .error f => .error (.tokenInvalid f)

end Token

end IdentityProvider
