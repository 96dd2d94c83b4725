import IdentityProvider.Base64
import IdentityProvider.Digest.Sha256

/-!
# Fingerprints

A secret is named in the log by the beginning of its digest, so that it can be
followed from line to line and not be recovered.
-/

namespace IdentityProvider

def fingerprintSize : Nat := 8

def fingerprint (secret : Bytes) : String :=
  Bytes.ascii (Base64.encode .url ((Digest.sha256 secret).take fingerprintSize))

end IdentityProvider
