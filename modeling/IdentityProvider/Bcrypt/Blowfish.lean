import IdentityProvider.Bcrypt.Pi

/-!
# Blowfish

A cipher of sixteen rounds on two words, with eighteen subkeys and four tables
of 256 words. A key is mixed in by adding it to the subkeys and then replacing
everything by encryptions under what is there so far.
-/

namespace IdentityProvider.Bcrypt

structure Cipher where
  subkeys : Vector UInt32 18
  tables : Vector UInt32 1024

structure Halves where
  left : UInt32
  right : UInt32
  deriving Repr, DecidableEq

def piTable : Vector UInt32 1042 := (⟨piWords 1042, by simp [piWords]⟩ : Vector UInt32 1042)

/-- The cipher before any key. -/
def Cipher.initial : Cipher :=
  ⟨Vector.ofFn fun i => piTable[i.val], Vector.ofFn fun i => piTable[18 + i.val]⟩

@[inline] def entry (tables : Vector UInt32 1024) (table : Fin 4) (b : UInt8) : UInt32 :=
  tables.get ⟨256 * table.val + b.toNat, by have := b.toNat_lt; have := table.isLt; omega⟩

@[inline] def feistel (tables : Vector UInt32 1024) (x : UInt32) : UInt32 :=
  ((entry tables 0 (x >>> 24).toUInt8 + entry tables 1 (x >>> 16).toUInt8) ^^^
    entry tables 2 (x >>> 8).toUInt8) + entry tables 3 x.toUInt8

/-- The rounds from the last `count` subkeys before the final two on. -/
def Cipher.rounds (c : Cipher) : (count : Nat) → count ≤ 16 → UInt32 → UInt32 → Halves
  | 0, _, l, r => ⟨r ^^^ c.subkeys[17], l ^^^ c.subkeys[16]⟩
  | n + 1, h, l, r =>
    let l := l ^^^ c.subkeys[15 - n]
    c.rounds n (by omega) (r ^^^ feistel c.tables l) l

def Cipher.encrypt (c : Cipher) (h : Halves) : Halves := c.rounds 16 (by omega) h.left h.right

/-- Four words that are added to what is encrypted, two at a time. -/
structure Salt where
  (w0 w1 w2 w3 : UInt32)
  deriving Repr, DecidableEq

def Salt.none : Salt := ⟨0, 0, 0, 0⟩

/-- The two words for an even or odd turn. -/
def Salt.turn (s : Salt) (i : Nat) (h : Halves) : Halves :=
  if i % 2 = 0 then ⟨h.left ^^^ s.w0, h.right ^^^ s.w1⟩ else ⟨h.left ^^^ s.w2, h.right ^^^ s.w3⟩

/-- Replaces the subkeys by a chain of encryptions. -/
def replaceSubkeys (salt : Salt) : (left : Nat) → Cipher → Halves → Cipher × Halves
  | 0, c, h => (c, h)
  | left + 1, c, h =>
    let i := 8 - left
    let h := c.encrypt (salt.turn i h)
    let subkeys := (c.subkeys.setIfInBounds (2 * i) h.left).setIfInBounds (2 * i + 1) h.right
    replaceSubkeys salt left ⟨subkeys, c.tables⟩ h

/-- Replaces the tables by the rest of the chain, whose turns go on from the subkeys'. -/
def replaceTables (salt : Salt) : (left : Nat) → Cipher → Halves → Cipher
  | 0, c, _ => c
  | left + 1, c, h =>
    let i := 511 - left
    let h := c.encrypt (salt.turn (i + 1) h)
    let ⟨subkeys, tables⟩ := c
    let tables := (tables.setIfInBounds (2 * i) h.left).setIfInBounds (2 * i + 1) h.right
    replaceTables salt left ⟨subkeys, tables⟩ h

/-- Mixes in a key, given as the eighteen words it fills when it is repeated. -/
def Cipher.expand (c : Cipher) (salt : Salt) (key : Vector UInt32 18) : Cipher :=
  let ⟨subkeys, tables⟩ := c
  let (c, h) := replaceSubkeys salt 9 ⟨subkeys.zipWith (· ^^^ ·) key, tables⟩ ⟨0, 0⟩
  replaceTables salt 512 c h

end IdentityProvider.Bcrypt
