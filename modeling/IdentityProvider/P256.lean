import IdentityProvider.Bytes
import IdentityProvider.Modular

/-!
# The curve P-256

Points satisfy `y² = x³ - 3x + b` modulo a prime. They are added in Jacobian
coordinates, where `(x, y, z)` stands for `(x/z², y/z³)` and `z = 0` for the
point at infinity. A point is written as both coordinates, or as one with the
parity of the other; a third form leaves the parity out and means the smaller
`y`.
-/

namespace IdentityProvider.P256

def prime : Nat := 0xFFFFFFFF00000001000000000000000000000000FFFFFFFFFFFFFFFFFFFFFFFF

def order : Nat := 0xFFFFFFFF00000000FFFFFFFFFFFFFFFFBCE6FAADA7179E84F3B9CAC2FC632551

def constant : Nat := 0x5AC635D8AA3A93E7B3EBBD55769886BC651D06B0CC53B0F63BCE3C3E27D2604B

-- ----- The field

def add (a b : Nat) : Nat := (a + b) % prime
def sub (a b : Nat) : Nat := (a + (prime - b % prime)) % prime
def mul (a b : Nat) : Nat := a * b % prime

def inverse (a : Nat) : Nat := (Modular.inverse? a prime).getD 0

/-- The prime leaves three modulo four, so a square has this root. -/
def root? (a : Nat) : Option Nat :=
  let r := Modular.pow a ((prime + 1) / 4) prime
  if mul r r = a % prime then some r else none

-- ----- Points

structure Point where
  x : Nat
  y : Nat
  deriving Repr, DecidableEq

def curve (x : Nat) : Nat := add (sub (mul (mul x x) x) (mul 3 x)) constant

def Point.onCurve (p : Point) : Bool := p.x < prime && p.y < prime && mul p.y p.y == curve p.x

def base : Point where
  x := 0x6B17D1F2E12C4247F8BCE6E563A440F277037D812DEB33A0F4A13945D898C296
  y := 0x4FE342E2FE1A7F9B8EE7EB4A7C0F9E162BCE33576B315ECECBB6406837BF51F5

structure Jacobian where
  x : Nat
  y : Nat
  z : Nat
  deriving Repr, DecidableEq

namespace Jacobian

def infinity : Jacobian := ⟨1, 1, 0⟩

def ofPoint (p : Point) : Jacobian := ⟨p.x, p.y, 1⟩

def toPoint? (p : Jacobian) : Option Point :=
  if p.z = 0 then none
  else
    let i := inverse p.z
    let i2 := mul i i
    some ⟨mul p.x i2, mul p.y (mul i2 i)⟩

def double (p : Jacobian) : Jacobian :=
  let delta := mul p.z p.z
  let gamma := mul p.y p.y
  let beta := mul p.x gamma
  let alpha := mul 3 (mul (sub p.x delta) (add p.x delta))
  let x := sub (mul alpha alpha) (mul 8 beta)
  let sum := add p.y p.z
  ⟨x, sub (mul alpha (sub (mul 4 beta) x)) (mul 8 (mul gamma gamma)),
    sub (mul sum sum) (add gamma delta)⟩

def add (p q : Jacobian) : Jacobian :=
  if p.z = 0 then q
  else if q.z = 0 then p
  else
    let pz2 := mul p.z p.z
    let qz2 := mul q.z q.z
    let u := mul p.x qz2
    let s := mul p.y (mul qz2 q.z)
    let h := sub (mul q.x pz2) u
    let r := sub (mul q.y (mul pz2 p.z)) s
    if h = 0 then if r = 0 then double p else infinity
    else
      let h2 := mul h h
      let h3 := mul h2 h
      let v := mul u h2
      let x := sub (mul r r) (P256.add h3 (mul 2 v))
      ⟨x, sub (mul r (sub v x)) (mul s h3), mul h (mul p.z q.z)⟩

/-- The multiple of a point by the lowest `bits` bits of a number. -/
def multiple : (bits : Nat) → Nat → Jacobian → Jacobian
  | 0, _, _ => infinity
  | bits + 1, n, p =>
    let twice := double (multiple bits (n / 2) p)
    if n % 2 = 1 then add twice p else twice

end Jacobian

def multiple (n : Nat) (p : Point) : Jacobian := Jacobian.multiple 256 n (.ofPoint p)

-- ----- Points as bytes

def coordinateSize : Nat := 32

def coordinate (n : Nat) : Bytes := Bytes.ofNat coordinateSize n

/-- Both coordinates in full. -/
def Point.write (p : Point) : Bytes := 4 :: coordinate p.x ++ coordinate p.y

def Point.writeCompressed (p : Point) : Bytes :=
  (if p.y % 2 = 0 then 2 else 3) :: coordinate p.x

/-- The points of the curve over an `x`: the one with the even `y` first. -/
def lift? (x : Nat) : Option (Nat × Nat) :=
  if x < prime then
    (root? (curve x)).map fun r => if r % 2 = 0 then (r, sub 0 r) else (sub 0 r, r)
  else none

def Point.read : Bytes → Option Point
  | [] => none
  | form :: bs =>
    if form = 4 then
      let p : Point := ⟨Bytes.toNat (bs.take coordinateSize), Bytes.toNat (bs.drop coordinateSize)⟩
      if bs.length = 2 * coordinateSize ∧ p.onCurve then some p else none
    else if bs.length ≠ coordinateSize then none
    else
      let x := Bytes.toNat bs
      match lift? x with
      | none => none
      | some (even, odd) =>
        if form = 2 then some ⟨x, even⟩
        else if form = 3 then some ⟨x, odd⟩
        else if form = 5 then some ⟨x, min even odd⟩
        else none

-- ----- Scalars

/-- A number that multiplies points: neither zero nor as large as the order of the curve. -/
structure Scalar where
  val : Nat
  pos : 0 < val
  lt : val < order
  deriving DecidableEq

def Scalar.ofNat? (n : Nat) : Option Scalar :=
  if h : 0 < n ∧ n < order then some ⟨n, h.1, h.2⟩ else none

/-- How many random bytes make every scalar about equally likely. -/
def wideSize : Nat := 48

def Scalar.ofWide (n : Nat) : Scalar :=
  ⟨n % (order - 1) + 1, by omega, by
    have := Nat.mod_lt n (show 0 < order - 1 by decide)
    omega⟩

def Scalar.bytes (s : Scalar) : Bytes := coordinate s.val

/-- The point that belongs to a secret scalar. A scalar below the order never
takes the base point to infinity. -/
def Scalar.point (s : Scalar) : Point := (multiple s.val base).toPoint?.getD base

end IdentityProvider.P256
