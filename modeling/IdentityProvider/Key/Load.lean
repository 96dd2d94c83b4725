import IdentityProvider.Key
import IdentityProvider.Key.Files
import IdentityProvider.Log.Event

/-!
# Loading keys

A key is loaded from PEM text for a given algorithm, or for the first algorithm
that can read it, which is then logged. The answer names the algorithm. A key
that cannot be read is an invalid key if the algorithm was given, and else of
no supported algorithm.
-/

namespace IdentityProvider

abbrev Loaded (κ : Type) := Logged (Except CryptoError (κ × Algorithm))

namespace KeyLoad

def detected (a : Algorithm) : Event :=
  ⟨.debug, "Detected key algorithm", [("algorithm", .text a.name)]⟩

/-- The first algorithm of a list that reads the key. -/
def detect (read? : Algorithm → Option κ) : List Algorithm → Loaded κ
  | [] => .silent (.error (.unsupportedSignatureAlgorithm .noMatch))
  | a :: rest =>
    match read? a with
    | some key => ⟨.ok (key, a), [detected a]⟩
    | none => detect read? rest

def only (part : KeyPart) (read? : Algorithm → Option κ) (a : Algorithm) : Loaded κ :=
  match read? a with
  | some key => .silent (.ok (key, a))
  | none => .silent (.error (.invalidKey (.undecodable a part)))

def load (part : KeyPart) (read? : Algorithm → Bytes → Option κ) (pem : Bytes) :
    AlgorithmChoice → Loaded κ
  | choice =>
    if pem.toString?.isNone then .silent (.error (.invalidKey .notUtf8))
    else match choice with
      | .auto => detect (read? · pem) Algorithm.all
      | .only a => only part (read? · pem) a

end KeyLoad

def PrivateKey.load (pem : Bytes) (choice : AlgorithmChoice) : Loaded PrivateKey :=
  KeyLoad.load .privateKey PrivateKey.ofPem? pem choice

def PublicKey.load (pem : Bytes) (choice : AlgorithmChoice) : Loaded PublicKey :=
  KeyLoad.load .publicKey PublicKey.ofPem? pem choice

-- ----- From files

/-- A missing file is told from one that cannot be read. -/
def Files.readKey (fs : Files) (path : String) : Except CryptoError Bytes :=
  match fs.read path with
  | .ok pem => .ok pem
  | .error .notFound => .error (.keyFileNotFound path)
  | .error fault => .error (.keyFileUnreadable path fault.message)

def PublicKey.loadFile (fs : Files) (path : String) (choice : AlgorithmChoice) :
    Loaded PublicKey :=
  match fs.readKey path with
  | .error e => .silent (.error e)
  | .ok pem => PublicKey.load pem choice

def loadedFrom (path : String) (a : Algorithm) : Event :=
  ⟨.info, "Loaded private signing key", [("path", .text path), ("algorithm", .text a.name)]⟩

/-- The signing key of a server is worth an event of its own. -/
def PrivateKey.loadFile (fs : Files) (path : String) (choice : AlgorithmChoice) :
    Loaded PrivateKey :=
  match fs.readKey path with
  | .error e => .silent (.error e)
  | .ok pem =>
    match PrivateKey.load pem choice with
    | ⟨.ok (key, a), events⟩ => ⟨.ok (key, a), events ++ [loadedFrom path a]⟩
    | failed => failed

end IdentityProvider
