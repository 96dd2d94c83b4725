import IdentityProvider.Digest.Sha256

/-!
# HMAC-SHA256

A keyed digest: the key, brought to the length of a block, goes in front of the
message and of the first digest, each time under its own mask.
-/

namespace IdentityProvider.Digest

/-- A key of at most a block, filled up with zeros; a longer one is digested first. -/
def blockKey (key : Bytes) : Bytes :=
  let short := if 64 < key.length then sha256 key else key
  short ++ List.replicate (64 - short.length) 0

def masked (mask : UInt8) (key : Bytes) : Bytes := key.map (· ^^^ mask)

def hmacSha256 (key message : Bytes) : Bytes :=
  let k := blockKey key
  sha256 (masked 0x5c k ++ sha256 (masked 0x36 k ++ message))

theorem length_hmacSha256 (key message : Bytes) : (hmacSha256 key message).length = 32 := rfl

end IdentityProvider.Digest
