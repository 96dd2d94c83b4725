/-!
# Byte strings

Everything that is hashed, signed, encoded or parsed is a list of bytes. The
bytes of a text are its UTF-8 form, and a list of bytes is a text only when it
is valid UTF-8. Numbers are read and written most significant byte first.
-/

namespace IdentityProvider

abbrev Bytes := List UInt8

namespace Bytes

/-- The UTF-8 form of a text. -/
def ofString (s : String) : Bytes := s.toByteArray.data.toList

/-- The text whose UTF-8 form this is, if it is one. -/
def toString? (bs : Bytes) : Option String := String.fromUTF8? ⟨bs.toArray⟩

/-- Reads each byte as the character with that code; meant for ASCII. -/
def ascii (bs : Bytes) : String := String.ofList (bs.map fun b => Char.ofNat b.toNat)

theorem toString?_ofString (s : String) : toString? (ofString s) = some s := by
  have h : (ByteArray.mk (ofString s).toArray) = s.toByteArray := by
    simp [ofString]
  unfold toString? String.fromUTF8?
  rw [h, dif_pos s.isValidUTF8]
  rfl

-- ----- Big-endian numbers

def toNat (bs : Bytes) : Nat := bs.foldl (fun n b => n * 256 + b.toNat) 0

/-- The last `width` base-256 digits of a number. -/
def ofNat : (width : Nat) → Nat → Bytes
  | 0, _ => []
  | width + 1, n => ofNat width (n / 256) ++ [UInt8.ofNat (n % 256)]

theorem length_ofNat (width n : Nat) : (ofNat width n).length = width := by
  induction width generalizing n with
  | zero => rfl
  | succ w ih => simp [ofNat, ih]

/-- How many base-256 digits a number has; none for zero. -/
def digitCount (n : Nat) : Nat := if n = 0 then 0 else n.log2 / 8 + 1

/-- The base-256 digits of a number without leading zeros. -/
def digits (n : Nat) : Bytes := ofNat (digitCount n) n

-- ----- Hexadecimal

def hexDigit (n : Nat) : Char := ("0123456789abcdef".toList)[n]?.getD '0'

def hexValue? (c : Char) : Option Nat :=
  if '0' ≤ c ∧ c ≤ '9' then some (c.toNat - 48)
  else if 'a' ≤ c ∧ c ≤ 'f' then some (c.toNat - 87)
  else if 'A' ≤ c ∧ c ≤ 'F' then some (c.toNat - 55)
  else none

/-- Two lowercase hexadecimal digits a byte. -/
def hex (bs : Bytes) : String :=
  String.ofList (bs.flatMap fun b => [hexDigit (b.toNat / 16), hexDigit (b.toNat % 16)])

def ofHexChars? : List Char → Option Bytes
  | [] => some []
  | [_] => none
  | high :: low :: rest => do
    let h ← hexValue? high
    let l ← hexValue? low
    let tail ← ofHexChars? rest
    some (UInt8.ofNat (h * 16 + l) :: tail)

def ofHex? (s : String) : Option Bytes := ofHexChars? s.toList

-- ----- Cutting

/-- The parts between occurrences of a byte: always one more than there are occurrences. -/
def splitOn (sep : UInt8) : Bytes → List Bytes
  | [] => [[]]
  | b :: rest =>
    if b = sep then [] :: splitOn sep rest
    else match splitOn sep rest with
      | [] => [[b]]
      | part :: parts => (b :: part) :: parts

theorem splitOn_ne_nil (sep : UInt8) (bs : Bytes) : splitOn sep bs ≠ [] := by
  cases bs with
  | nil => simp [splitOn]
  | cons b r => unfold splitOn; split <;> (try split) <;> simp

/-- Compares every byte whatever the earlier ones were; only the lengths may
be told from the time it takes. -/
def equalInFull (a b : Bytes) : Bool :=
  a.length == b.length && (a.zip b).foldl (fun diff p => diff ||| (p.1 ^^^ p.2)) 0 == 0

end Bytes

end IdentityProvider
