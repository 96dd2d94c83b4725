import IdentityProvider.Base64
import IdentityProvider.Digest.Sha1
import IdentityProvider.Key.Document
import IdentityProvider.Key.Pem
import IdentityProvider.Key.Scheme
import IdentityProvider.P256.Ecdsa
import IdentityProvider.Rsa.Generate

/-!
# Signing keys

A private key signs and knows its public key; a public key verifies and has a
name, the digest of its document.
-/

namespace IdentityProvider

-- ----- Public keys

namespace PublicKey

def verify (key : PublicKey) (message signature : Bytes) : Except SignatureFault Unit :=
  match key with
  | es256 point =>
    match P256.Signature.read signature with
    | none => .error .plain
    | some sig => if P256.verifies point message sig then .ok () else .error .plain
  | rs256 key => if key.verifies message signature then .ok () else .error .verification

/-- The digest of the document, which for a key that can be loaded is never too long to be
written. -/
def keyId (key : PublicKey) : String :=
  Bytes.ascii (Base64.encode .url (Digest.sha1 key.document))

def toPem (key : PublicKey) : Bytes := Pem.encode KeyPart.publicKey.label key.document

/-- The text of a key whose document is not too long. -/
def publish (key : PublicKey) : Except CryptoError Bytes :=
  match KeyDocument.checkLength .publicKey key.document with
  | .ok _ => .ok key.toPem
  | .error f => .error (.invalidKey f)

def ofPem? (a : Algorithm) (pem : Bytes) : Option PublicKey :=
  (Pem.decode KeyPart.publicKey.label pem).bind (ofDocument? a)

end PublicKey

instance : VerifyingKey PublicKey := ⟨PublicKey.algorithm, PublicKey.keyId, PublicKey.verify⟩

-- ----- Private keys

namespace PrivateKey

def publicKey : PrivateKey → PublicKey
  | es256 secret => .es256 secret.point
  | rs256 key => .rs256 key.publicKey

theorem algorithm_publicKey (key : PrivateKey) : key.publicKey.algorithm = key.algorithm := by
  cases key <;> rfl

def sign (key : PrivateKey) (message : Bytes) : Except SignatureFault Bytes :=
  match key with
  | es256 secret =>
    match P256.sign secret message with
    | some sig => .ok sig.write
    | none => .error .plain
  | rs256 key => key.sign message

def toPem (key : PrivateKey) : Except CryptoError Bytes :=
  match key.document with
  | .ok document => .ok (Pem.encode KeyPart.privateKey.label document)
  | .error f => .error (.invalidKey f)

def ofPem? (a : Algorithm) (pem : Bytes) : Option PrivateKey :=
  (Pem.decode KeyPart.privateKey.label pem).bind (ofDocument? a)

/-- Tells the family and nothing of the key. -/
def shown (key : PrivateKey) : String := "PrivateKey::" ++ key.algorithm.name ++ "(..)"

def generate (choice : AlgorithmChoice) (e : Entropy) : Except CryptoError PrivateKey :=
  match choice with
  | .auto => .error (.unsupportedSignatureAlgorithm .noneToGenerate)
  | .only .es256 => .ok (.es256 (.ofWide (Bytes.toNat (e.draw P256.wideSize).1)))
  | .only .rs256 =>
    match Rsa.PrivateKey.generate? Rsa.newKeyBits e with
    | some key => .ok (.rs256 key)
    | none => .error (.keyGenerationFailed "no primes found")

end PrivateKey

instance : SigningKey PrivateKey PublicKey := ⟨PrivateKey.publicKey, PrivateKey.sign⟩

end IdentityProvider
