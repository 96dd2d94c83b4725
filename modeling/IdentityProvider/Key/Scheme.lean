import IdentityProvider.Error.Crypto

/-!
# What is asked of keys

Tokens and the token service need little of keys, and do not depend on how keys
work.
-/

namespace IdentityProvider

class VerifyingKey (P : Type) where
  algorithm : P → Algorithm
  /-- The key's name in tokens. -/
  keyId : P → String
  verify : P → (message signature : Bytes) → Except SignatureFault Unit

class SigningKey (K : Type) (P : outParam Type) [VerifyingKey P] where
  publicKey : K → P
  sign : K → (message : Bytes) → Except SignatureFault Bytes

/-- A private key has the algorithm of its public key. -/
def SigningKey.algorithm [VerifyingKey P] [SigningKey K P] (k : K) : Algorithm :=
  VerifyingKey.algorithm (SigningKey.publicKey k)

end IdentityProvider
