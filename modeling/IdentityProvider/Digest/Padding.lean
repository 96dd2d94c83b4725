import IdentityProvider.Bytes

/-!
# Blocks of a message

SHA-1 and SHA-256 both read a message in blocks of sixteen 32-bit words. The
message is followed by a one bit, zeros up to the last eight bytes of a block,
and its own length in bits.
-/

namespace IdentityProvider.Digest

def zeroCount (length : Nat) : Nat := (119 - length % 64) % 64

def padded (message : Bytes) : Bytes :=
  message ++ 128 :: (List.replicate (zeroCount message.length) 0 ++
    Bytes.ofNat 8 (8 * message.length))

theorem length_padded (message : Bytes) : (padded message).length % 64 = 0 := by
  simp only [padded, List.length_append, List.length_cons, List.length_replicate,
    Bytes.length_ofNat, zeroCount]
  omega

/-- The 32-bit words of a byte string, most significant byte first. -/
def words : Bytes → List UInt32
  | a :: b :: c :: d :: rest =>
    (a.toUInt32 <<< 24 ||| b.toUInt32 <<< 16 ||| c.toUInt32 <<< 8 ||| d.toUInt32) :: words rest
  | _ => []

/-- Cuts a list into runs of sixteen; what is left over is dropped. -/
def blocks (ws : List UInt32) : List (List UInt32) :=
  (List.range (ws.length / 16)).map fun i => (ws.drop (16 * i)).take 16

def messageBlocks (message : Bytes) : List (List UInt32) := blocks (words (padded message))

def wordBytes (w : UInt32) : Bytes :=
  [(w >>> 24).toUInt8, (w >>> 16).toUInt8, (w >>> 8).toUInt8, w.toUInt8]

theorem length_wordBytes (w : UInt32) : (wordBytes w).length = 4 := rfl

end IdentityProvider.Digest
