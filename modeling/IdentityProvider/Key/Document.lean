import IdentityProvider.Key.Der
import IdentityProvider.P256
import IdentityProvider.Rsa

/-!
# Key documents

A public or private key is wrapped in an envelope that names its family. A
private envelope may say more than is needed: the public key, attributes and
members of later versions. What is checked is checked against the key itself.
-/

namespace IdentityProvider

open Der (Element)

inductive PublicKey where
  | es256 (point : P256.Point)
  | rs256 (key : Rsa.PublicKey)
  deriving DecidableEq

inductive PrivateKey where
  | es256 (secret : P256.Scalar)
  | rs256 (key : Rsa.PrivateKey)
  deriving DecidableEq

def PublicKey.algorithm : PublicKey → Algorithm
  | es256 _ => .es256
  | rs256 _ => .rs256

def PrivateKey.algorithm : PrivateKey → Algorithm
  | es256 _ => .es256
  | rs256 _ => .rs256

/-- What a document is called in PEM. -/
def KeyPart.label : KeyPart → String
  | .privateKey => "PRIVATE KEY"
  | .publicKey => "PUBLIC KEY"

namespace KeyDocument

-- ----- Families

def ellipticCurveKey : Bytes := [0x2A, 0x86, 0x48, 0xCE, 0x3D, 0x02, 0x01]
def curveP256 : Bytes := [0x2A, 0x86, 0x48, 0xCE, 0x3D, 0x03, 0x01, 0x07]
def rsaKey : Bytes := [0x2A, 0x86, 0x48, 0x86, 0xF7, 0x0D, 0x01, 0x01, 0x01]

def family : Algorithm → Element
  | .es256 => Der.sequence [Der.identifier ellipticCurveKey, Der.identifier curveP256]
  | .rs256 => Der.sequence [Der.identifier rsaKey, Der.null]

-- ----- Envelopes

def writePublic (a : Algorithm) (key : Bytes) : Bytes :=
  (Der.sequence [family a, Der.bits key]).write

def readPublic (a : Algorithm) (document : Bytes) : Option Bytes :=
  match Der.readSequence document with
  | some [named, key] => if named = family a then key.bits? else none
  | _ => none

def writePrivate (a : Algorithm) (key : Bytes) : Bytes :=
  (Der.sequence [Der.natural 0, family a, Der.octets key]).write

/-- The members behind the key: a public key exactly if the version is one,
and wrapped members of any number. -/
def trailingFits (version : Nat) (members : List Element) : Bool :=
  match Der.skipBelow 1 members with
  | [] => version == 0
  | e :: rest =>
    if e.hasNumber 1 then
      version == 1 && e.tag == Der.replacingTag 1 && (Der.bitsContent? e.content).isSome &&
        rest.all fun m => m.wrapped?.isSome
    else version == 0 && (e :: rest).all fun m => m.wrapped?.isSome

def readPrivate (a : Algorithm) (document : Bytes) : Option Bytes :=
  match Der.readSequence document with
  | some (version :: named :: key :: members) => do
    let version ← version.natural?
    if named = family a ∧ trailingFits version members then key.octets? else none
  | _ => none

-- ----- Keys on the curve

/-- The optional name of the curve, which is not compared with anything. -/
def afterCurveName : List Element → Option (List Element)
  | [] => some []
  | e :: rest =>
    if e.hasNumber 0 then
      match e.wrapped? with
      | some inner =>
        if inner.tag = Der.identifierTag ∧ Der.isIdentifier inner.content then some rest else none
      | none => none
    else some (e :: rest)

/-- The optional public key behind a scalar must be its own, in one of the two usual forms. -/
def publicPartFits (secret : P256.Scalar) (members : List Element) : Bool :=
  match Der.skipBelow 1 members with
  | [] => true
  | [e] =>
    e.hasNumber 1 &&
      match e.wrapped?.bind Element.bits? with
      | some point => point == secret.point.write || point == secret.point.writeCompressed
      | none => false
  | _ => false

/-- A scalar with all its bytes, or with all but a first byte of zero. -/
def readScalar (bs : Bytes) : Option P256.Scalar :=
  if bs.length = P256.coordinateSize ∨ bs.length + 1 = P256.coordinateSize then
    P256.Scalar.ofNat? (Bytes.toNat bs)
  else none

def writeScalar (secret : P256.Scalar) : Bytes :=
  (Der.sequence [Der.natural 1, Der.octets secret.bytes,
    Der.container (Der.wrapperTag 1) [Der.bits secret.point.write]]).write

def readCurveKey (key : Bytes) : Option P256.Scalar :=
  match Der.readSequence key with
  | some (version :: scalar :: members) => do
    let bytes ← scalar.octets?
    let secret ← readScalar bytes
    let members ← afterCurveName members
    if version.natural? = some 1 ∧ publicPartFits secret members then some secret else none
  | _ => none

-- ----- RSA keys

def writeRsaPublic (key : Rsa.PublicKey) : Bytes :=
  (Der.sequence [Der.natural key.n, Der.natural key.e]).write

def readRsaPublic (bs : Bytes) : Option Rsa.PublicKey :=
  match (Der.readSequence bs).bind fun es => es.mapM Element.natural? with
  | some [n, e] =>
    let key : Rsa.PublicKey := ⟨n, e⟩
    if key.isShort ∧ key.isSound then some key else none
  | _ => none

/-- The exponents modulo the factors and the coefficient are recomputed. -/
def writeRsaPrivate? (k : Rsa.PrivateKey) : Option Bytes :=
  k.coefficient?.map fun coefficient =>
    (Der.sequence ([0, k.n, k.e, k.d, k.p, k.q, k.d % (k.p - 1), k.d % (k.q - 1),
      coefficient].map Der.natural)).write

def readRsaPrivate (bs : Bytes) : Option Rsa.PrivateKey :=
  match (Der.readSequence bs).bind fun es => es.mapM Element.natural? with
  | some [0, n, e, d, p, q, _, _, _] =>
    let key : Rsa.PrivateKey := ⟨n, e, d, p, q⟩
    if key.isSound then some key else none
  | _ => none

end KeyDocument

-- ----- Whole documents

open KeyDocument

def PublicKey.document : PublicKey → Bytes
  | es256 point => writePublic .es256 point.write
  | rs256 key => writePublic .rs256 (writeRsaPublic key)

def PublicKey.ofDocument? (a : Algorithm) (document : Bytes) : Option PublicKey :=
  match a with
  | .es256 => (readPublic .es256 document).bind fun key => (P256.Point.read key).map .es256
  | .rs256 => (readPublic .rs256 document).bind fun key => (readRsaPublic key).map .rs256

/-- A document is refused that is too long to be read. -/
def KeyDocument.checkLength (part : KeyPart) (document : Bytes) : Except KeyFault Bytes :=
  if document.length < Der.maxLength then .ok document else .error (.tooLong part)

def PrivateKey.document : PrivateKey → Except KeyFault Bytes
  | es256 secret => checkLength .privateKey (writePrivate .es256 (writeScalar secret))
  | rs256 key =>
    match writeRsaPrivate? key with
    | some inner => checkLength .privateKey (writePrivate .rs256 inner)
    | none => .error .malformedMaterial

def PrivateKey.ofDocument? (a : Algorithm) (document : Bytes) : Option PrivateKey :=
  match a with
  | .es256 => (readPrivate .es256 document).bind fun key => (readCurveKey key).map .es256
  | .rs256 => (readPrivate .rs256 document).bind fun key => (readRsaPrivate key).map .rs256

end IdentityProvider
