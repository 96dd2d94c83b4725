import IdentityProvider.Bcrypt.Blowfish
import IdentityProvider.Bytes

/-!
# bcrypt

A fixed text is encrypted under a cipher whose key takes `2 ^ cost` rounds of
mixing. The key is the password with a zero byte at its end, of which at most
seventy-two bytes count; the last byte of the result is dropped.
-/

namespace IdentityProvider.Bcrypt

def maxKeyLength : Nat := 72

/-- The word at a place of a byte string that is repeated without end. -/
def cyclicWord (bs : Array UInt8) (start : Nat) : UInt32 :=
  (List.range 4).foldl
    (fun w i => w <<< 8 ||| (bs[(start + i) % bs.size]?.getD 0).toUInt32) 0

def cyclicWords (bs : Bytes) : Vector UInt32 18 :=
  let bytes := bs.toArray
  Vector.ofFn fun i => cyclicWord bytes (4 * i.val)

def saltWords (salt : Bytes) : Salt :=
  let bytes := salt.toArray
  ⟨cyclicWord bytes 0, cyclicWord bytes 4, cyclicWord bytes 8, cyclicWord bytes 12⟩

/-- Mixes in the key and the salt in turn. -/
def mixRounds (key salt : Vector UInt32 18) : Nat → Cipher → Cipher
  | 0, c => c
  | n + 1, c => mixRounds key salt n ((c.expand .none key).expand .none salt)

def setup (cost : Nat) (salt key : Bytes) : Cipher :=
  let keyWords := cyclicWords key
  mixRounds keyWords (cyclicWords salt) (1 <<< cost) (Cipher.initial.expand (saltWords salt) keyWords)

/-- The fixed text in words: "OrpheanBeholderScryDoubt". -/
def fixedText : List Halves :=
  [⟨0x4f727068, 0x65616e42⟩, ⟨0x65686f6c, 0x64657253⟩, ⟨0x63727944, 0x6f756274⟩]

def encryptTimes (c : Cipher) : Nat → Halves → Halves
  | 0, h => h
  | n + 1, h => encryptTimes c n (c.encrypt h)

def Halves.bytes (h : Halves) : Bytes :=
  Bytes.ofNat 4 h.left.toNat ++ Bytes.ofNat 4 h.right.toNat

def derive (cost : Nat) (salt password : Bytes) : Bytes :=
  let c := setup cost salt ((password ++ [0]).take maxKeyLength)
  (fixedText.flatMap fun h => (encryptTimes c 64 h).bytes).take 23

end IdentityProvider.Bcrypt
