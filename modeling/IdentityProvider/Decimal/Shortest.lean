/-!
# Shortest decimal of a binary number

A finite positive floating-point number is `m * 2 ^ q`, and the real numbers
that round to it form an interval around it, ends included when `m` is even.
Among the decimals in that interval the ones with the fewest digits are kept,
and of those the one nearest to the number; a tie goes to the even digit.
-/

namespace IdentityProvider.Decimal

/-- The number `significand * 2 ^ exponent`. -/
structure Binary where
  significand : Nat
  exponent : Int
  /-- The next smaller number is only half as far away as the next greater one. -/
  narrowBelow : Bool
  deriving Repr, DecidableEq

/-- The number `digits * 10 ^ exponent`. -/
structure Scientific where
  digits : Nat
  exponent : Int
  deriving Repr, DecidableEq

/-- The parts of a 64-bit floating-point number without its sign, unless it is
zero, infinite or no number. -/
def Binary.ofBits? (bits : UInt64) : Option Binary :=
  let field : Nat := (bits >>> 52).toNat % 0x800
  let fraction : Nat := bits.toNat % 0x10000000000000
  if field = 2047 then none
  else if field = 0 then
    if fraction = 0 then none else some ⟨fraction, -1074, false⟩
  else some ⟨0x10000000000000 + fraction, (field : Int) - 1075, fraction = 0 && field ≠ 1⟩

/-- A non-negative fraction. -/
structure Ratio where
  num : Nat
  den : Nat
  deriving Repr

def Ratio.scale (r : Ratio) (base : Nat) : Int → Ratio
  | .ofNat k => ⟨r.num * Nat.pow base k, r.den⟩
  | .negSucc k => ⟨r.num, r.den * Nat.pow base (k + 1)⟩

def Ratio.le (a b : Ratio) : Bool := a.num * b.den ≤ b.num * a.den
def Ratio.lt (a b : Ratio) : Bool := a.num * b.den < b.num * a.den

/-- The interval of the numbers that round to `b`, in quarters of its last place. -/
structure Interval where
  low : Ratio
  middle : Ratio
  high : Ratio
  closed : Bool
  deriving Repr

def Binary.interval (b : Binary) : Interval :=
  let quarter (n : Nat) : Ratio := (Ratio.mk n 1).scale 2 (b.exponent - 2)
  let m := 4 * b.significand
  ⟨quarter (m - if b.narrowBelow then 1 else 2), quarter m, quarter (m + 2),
    b.significand % 2 = 0⟩

def Interval.holds (i : Interval) (r : Ratio) : Bool :=
  if i.closed then i.low.le r && r.le i.high else i.low.lt r && r.lt i.high

/-- The power of ten of the first digit. -/
def Binary.firstPlace (b : Binary) : Int :=
  let guess := Int.fdiv (((b.significand.log2 : Int) + b.exponent) * 30103) 100000
  if ((Ratio.mk 1 1).scale 10 (guess + 1)).le b.interval.middle then guess + 1 else guess

/-- The better of the two neighbours on the grid of multiples of `10 ^ place`
that lie in the interval, if one does. -/
def Interval.onGrid? (i : Interval) (place : Int) : Option Scientific :=
  let m := i.middle.scale 10 (-place)
  let below := m.num / m.den
  let left := m.num - below * m.den
  let inside (n : Nat) : Bool := i.holds ((Ratio.mk n 1).scale 10 place)
  let preferAbove := m.den < 2 * left || (m.den = 2 * left && below % 2 = 1)
  match below ≠ 0 && inside below, inside (below + 1) with
  | true, true => some ⟨if preferAbove then below + 1 else below, place⟩
  | true, false => some ⟨below, place⟩
  | false, true => some ⟨below + 1, place⟩
  | false, false => none

/-- The first grid that holds a point of the interval, from `count` digits on. -/
def Interval.search (i : Interval) (first : Int) : (fuel count : Nat) → Option Scientific
  | 0, _ => none
  | fuel + 1, count =>
    match i.onGrid? (first - count + 1) with
    | some s => some s
    | none => Interval.search i first fuel (count + 1)

def Scientific.trim (s : Scientific) : Scientific :=
  if s.digits = 0 ∨ s.digits % 10 ≠ 0 then s
  else Scientific.trim ⟨s.digits / 10, s.exponent + 1⟩
termination_by s.digits
decreasing_by omega

/-- Seventeen digits always suffice for a 64-bit number. -/
def Binary.shortest? (b : Binary) : Option Scientific :=
  (b.interval.search b.firstPlace 17 1).map Scientific.trim

end IdentityProvider.Decimal
