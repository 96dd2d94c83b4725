import IdentityProvider.Bytes

/-!
# Base64 without padding

Three bytes become four symbols, and one or two bytes left over become two or
three. Decoding is strict: no padding, no foreign byte, and the bits that the
last symbol does not use must be zero, so that each byte string has exactly one
spelling. A fault is reported with the byte offset where it was met; the order
of the checks is part of what callers see.
-/

namespace IdentityProvider.Base64

inductive Alphabet where
  /-- With `+` and `/` at the end. -/
  | standard
  /-- With `-` and `_` at the end, safe in a URL. -/
  | url
  /-- Begins with `./`, then upper case, lower case, digits. -/
  | bcrypt
  deriving Repr, DecidableEq

def upper : Bytes := (List.range 26).map fun i => UInt8.ofNat (65 + i)
def lower : Bytes := (List.range 26).map fun i => UInt8.ofNat (97 + i)
def figures : Bytes := (List.range 10).map fun i => UInt8.ofNat (48 + i)

/-- The sixty-four symbols in the order of their values. -/
def Alphabet.symbols : Alphabet → Bytes
  | .standard => upper ++ lower ++ figures ++ [43, 47]
  | .url => upper ++ lower ++ figures ++ [45, 95]
  | .bcrypt => [46, 47] ++ upper ++ lower ++ figures

def Alphabet.symbol (a : Alphabet) (value : Nat) : UInt8 := a.symbols[value]?.getD 0

def Alphabet.value? (a : Alphabet) (b : UInt8) : Option Nat := a.symbols.idxOf? b

inductive Error where
  | invalidSymbol (offset : Nat) (byte : UInt8)
  | invalidLength (length : Nat)
  | invalidPadding
  | invalidLastSymbol (offset : Nat) (byte : UInt8)
  deriving Repr, DecidableEq

def Error.message : Error → String
  | .invalidSymbol offset byte => s!"Invalid symbol {byte.toNat}, offset {offset}."
  | .invalidLength length => s!"Invalid input length: {length}"
  | .invalidPadding => "Invalid padding"
  | .invalidLastSymbol offset byte => s!"Invalid last symbol {byte.toNat}, offset {offset}."

-- ----- Writing

def encode (a : Alphabet) : Bytes → Bytes
  | [] => []
  | [x] => [a.symbol (x.toNat / 4), a.symbol (x.toNat % 4 * 16)]
  | [x, y] =>
    [a.symbol (x.toNat / 4), a.symbol (x.toNat % 4 * 16 + y.toNat / 16),
      a.symbol (y.toNat % 16 * 4)]
  | x :: y :: z :: rest =>
    a.symbol (x.toNat / 4) :: a.symbol (x.toNat % 4 * 16 + y.toNat / 16) ::
      a.symbol (y.toNat % 16 * 4 + z.toNat / 64) :: a.symbol (z.toNat % 64) :: encode a rest

-- ----- Reading

def pad : UInt8 := 61

/-- The value of the symbol at an offset. -/
def Alphabet.read (a : Alphabet) (offset : Nat) (b : UInt8) : Except Error Nat :=
  match a.value? b with
  | some v => .ok v
  | none => .error (.invalidSymbol offset b)

/-- What the last chunk holds: the values of its symbols and whether padding follows them. -/
structure Tail where
  values : List Nat
  padded : Bool

/-- Reads the last chunk byte by byte. Padding may not begin before the third
place, and only padding may follow it. -/
def Tail.read (a : Alphabet) (start : Nat) :
    (place : Nat) → (padAt : Option Nat) → Bytes → Except Error Tail
  | _, padAt, [] => .ok ⟨[], padAt.isSome⟩
  | place, padAt, b :: rest =>
    if b = pad then
      if place < 2 then .error (.invalidSymbol (start + place) pad)
      else Tail.read a start (place + 1) (padAt.or (some place)) rest
    else match padAt with
      | some first => .error (.invalidSymbol (start + first) pad)
      | none => do
        let v ← a.read (start + place) b
        let tail ← Tail.read a start (place + 1) none rest
        .ok ⟨v :: tail.values, tail.padded⟩

/-- The bytes of a last chunk, once its bytes are known to be symbols. -/
def Tail.bytes (start : Nat) (chunk : Bytes) (t : Tail) : Except Error Bytes :=
  let unused (place spare : Nat) (out : Bytes) : Except Error Bytes :=
    if spare = 0 then .ok out
    else .error (.invalidLastSymbol (start + place) (chunk[place]?.getD 0))
  if chunk ≠ [] ∧ t.values.length < 2 then .error (.invalidLength (start + t.values.length))
  else if t.padded then .error .invalidPadding
  else match t.values with
    | [p, q] => unused 1 (q % 16) [UInt8.ofNat (p * 4 + q / 16)]
    | [p, q, r] =>
      unused 2 (r % 4) [UInt8.ofNat (p * 4 + q / 16), UInt8.ofNat (q % 16 * 16 + r / 4)]
    | [p, q, r, s] =>
      .ok [UInt8.ofNat (p * 4 + q / 16), UInt8.ofNat (q % 16 * 16 + r / 4),
        UInt8.ofNat (r % 4 * 64 + s)]
    | _ => .ok []

/-- Every group of four but the last chunk, then the last chunk of one to four bytes. -/
def decodeFrom (a : Alphabet) (offset : Nat) : Bytes → Except Error Bytes
  | w :: x :: y :: z :: b :: rest => do
    let p ← a.read offset w
    let q ← a.read (offset + 1) x
    let r ← a.read (offset + 2) y
    let s ← a.read (offset + 3) z
    let tail ← decodeFrom a (offset + 4) (b :: rest)
    .ok (UInt8.ofNat (p * 4 + q / 16) :: UInt8.ofNat (q % 16 * 16 + r / 4) ::
      UInt8.ofNat (r % 4 * 64 + s) :: tail)
  | chunk => do
    let tail ← Tail.read a offset 0 none chunk
    tail.bytes offset chunk

/-- A stray byte that alone makes the length impossible is reported before all else. -/
def strayLast? (a : Alphabet) (bs : Bytes) : Option Error :=
  match bs.getLast? with
  | some b =>
    if bs.length % 4 = 1 ∧ b ≠ pad ∧ a.value? b = none then
      some (.invalidSymbol (bs.length - 1) b)
    else none
  | none => none

def decode (a : Alphabet) (bs : Bytes) : Except Error Bytes :=
  match strayLast? a bs with
  | some e => .error e
  | none => decodeFrom a 0 bs

end IdentityProvider.Base64
