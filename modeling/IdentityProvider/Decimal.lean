import IdentityProvider.Bytes

/-!
# Decimal integers

A number is read from an optional sign and at least one digit, with leading
zeros allowed and nothing else; unsigned numbers take a plus sign, signed ones
either sign. A value outside the word is not a number of that word.
-/

namespace IdentityProvider.Decimal

def digit? (b : UInt8) : Option Nat :=
  if 48 ≤ b ∧ b ≤ 57 then some (b.toNat - 48) else none

/-- The value of a run of digits, after an already read beginning. -/
def digits? (start : Nat) : Bytes → Option Nat
  | [] => some start
  | b :: rest => do
    let d ← digit? b
    digits? (start * 10 + d) rest

/-- One or more digits. -/
def natural? : Bytes → Option Nat
  | [] => none
  | bs => digits? 0 bs

def plusSign : UInt8 := 43
def minusSign : UInt8 := 45

/-- Digits after an optional plus sign. -/
def unsigned? : Bytes → Option Nat
  | b :: rest => if b = plusSign then natural? rest else natural? (b :: rest)
  | [] => none

/-- Digits after an optional sign. -/
def signed? : Bytes → Option Int
  | b :: rest =>
    if b = minusSign then (natural? rest).map fun n => -(n : Int)
    else (unsigned? (b :: rest)).map Int.ofNat
  | [] => none

def uint32? (bs : Bytes) : Option UInt32 :=
  (unsigned? bs).bind fun n => if n < UInt32.size then some (UInt32.ofNat n) else none

def uint64? (bs : Bytes) : Option UInt64 :=
  (unsigned? bs).bind fun n => if n < UInt64.size then some (UInt64.ofNat n) else none

def int64? (bs : Bytes) : Option Int64 :=
  (signed? bs).bind fun n =>
    if -0x8000000000000000 ≤ n ∧ n < 0x8000000000000000 then some (Int64.ofInt n) else none

-- ----- Writing

/-- The digits of a number, least significant first; none for zero. -/
def reversedDigits (n : Nat) : List Nat :=
  if n = 0 then [] else n % 10 :: reversedDigits (n / 10)
termination_by n
decreasing_by omega

def digitByte (d : Nat) : UInt8 := UInt8.ofNat (48 + d)

def ofNat (n : Nat) : Bytes :=
  if n = 0 then [48] else (reversedDigits n).reverse.map digitByte

def ofInt : Int → Bytes
  | .ofNat n => ofNat n
  | .negSucc n => minusSign :: ofNat (n + 1)

end IdentityProvider.Decimal
