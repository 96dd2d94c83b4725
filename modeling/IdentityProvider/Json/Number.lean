import IdentityProvider.Decimal
import IdentityProvider.Decimal.Shortest
import IdentityProvider.Json.Error

/-!
# The value of a JSON number

A spelling without fraction and exponent is an integer when it fits into 64
bits, with a sign or without; minus zero and everything else is a floating-point
number. Digits beyond the 64 bits of the significand only move the point, and
the power of ten is applied by one multiplication or division, so that the last
bit may differ from the nearest number.
-/

namespace IdentityProvider.Json

inductive Number where
  | natural (n : Nat)
  | negative (n : Int)
  | float (f : Float)
  deriving Repr

/-- Digits taken into a significand of 64 bits, and the power of ten that is left over. -/
structure Scaled where
  significand : Nat
  exponent : Int
  deriving Repr, DecidableEq

def fits (significand digit : Nat) : Bool := significand * 10 + digit < UInt64.size

/-- From the first digit that does not fit, digits count and are not looked at. -/
def takeWhole (significand : Nat) : List Nat → Scaled
  | [] => ⟨significand, 0⟩
  | d :: rest =>
    if fits significand d then takeWhole (significand * 10 + d) rest
    else ⟨significand, rest.length + 1⟩

/-- From the first digit that does not fit, digits are dropped. -/
def takeFraction (s : Scaled) : List Nat → Scaled
  | [] => s
  | d :: rest =>
    if fits s.significand d then takeFraction ⟨s.significand * 10 + d, s.exponent - 1⟩ rest
    else s

def greatestExponent : Nat := 0x7fffffff

/-- The value of an exponent's digits, unless it passes 31 bits. -/
def exponentValue? (value : Nat) : List Nat → Option Nat
  | [] => some value
  | d :: rest =>
    if value * 10 + d ≤ greatestExponent then exponentValue? (value * 10 + d) rest else none

def clampExponent (e : Int) : Int := max (-0x80000000) (min 0x7fffffff e)

/-- `f * 10 ^ e` for the powers a float can hold, dividing in steps below them. -/
def scaleFloat (f : Float) (e : Int) : Except Fault Float :=
  if 308 < e then
    if f == 0 then .ok f else .error .numberOutOfRange
  else if 0 ≤ e then
    let r := f * Float.ofScientific 1 false e.toNat
    if r.isInf then .error .numberOutOfRange else .ok r
  else if -308 ≤ e then .ok (f / Float.ofScientific 1 false e.natAbs)
  else if f == 0 then .ok f
  else scaleFloat (f / Float.ofScientific 1 false 308) (e + 308)
termination_by e.natAbs
decreasing_by omega

def signed (negative : Bool) (f : Float) : Float := if negative then -f else f

def Scaled.float (s : Scaled) (negative : Bool) : Except Fault Float :=
  (scaleFloat (UInt64.ofNat s.significand).toFloat s.exponent).map (signed negative)

def Numeral.isInteger (n : Numeral) : Bool := n.fraction.isEmpty && n.exponent.isNone

def Numeral.value (n : Numeral) : Except Fault Number :=
  let whole := takeWhole 0 n.whole
  if n.isInteger && whole.exponent = 0 then
    let s := whole.significand
    if !n.negative then .ok (.natural s)
    else if 0 < s ∧ s ≤ 0x8000000000000000 then .ok (.negative (-(s : Int)))
    else .ok (.float (-(UInt64.ofNat s).toFloat))
  else
    let scaled := takeFraction whole n.fraction
    match n.exponent with
    | none => (scaled.float n.negative).map .float
    | some e =>
      match exponentValue? 0 e.digits with
      | some v =>
        let exponent := clampExponent (scaled.exponent + if e.negative then -(v : Int) else v)
        (Scaled.float ⟨scaled.significand, exponent⟩ n.negative).map .float
      | none =>
        if scaled.significand ≠ 0 ∧ !e.negative then .error .numberOutOfRange
        else .ok (.float (signed n.negative 0))

-- ----- Writing

/-- How a floating-point number is spelled. -/
structure FloatStyle where
  /-- The powers of ten of a first digit that is written without an exponent. -/
  plainFrom : Int
  plainTo : Int
  /-- What follows the digits of a whole number. -/
  wholeEnd : String
  /-- What stands before a positive exponent. -/
  exponentPlus : String

/-- Numbers from a hundred-thousandth up to sixteen digits are written plainly. -/
def floatStyle : FloatStyle := ⟨-5, 15, ".0", "+"⟩

def natText (n : Nat) : String := Bytes.ascii (Decimal.ofNat n)
def intText (n : Int) : String := Bytes.ascii (Decimal.ofInt n)

def zeros (n : Nat) : String := String.ofList (List.replicate n '0')

def FloatStyle.positive (style : FloatStyle) (s : Decimal.Scientific) : String :=
  let digits := natText s.digits
  let count := digits.length
  let first := s.exponent + count - 1
  if style.plainFrom ≤ first ∧ first ≤ style.plainTo then
    if 0 ≤ s.exponent then digits ++ zeros s.exponent.toNat ++ style.wholeEnd
    else if 0 ≤ first then
      let split := first.toNat + 1
      String.ofList (digits.toList.take split) ++ "." ++ String.ofList (digits.toList.drop split)
    else "0." ++ zeros (-first - 1).toNat ++ digits
  else
    let mantissa :=
      if count = 1 then digits
      else String.ofList (digits.toList.take 1) ++ "." ++ String.ofList (digits.toList.drop 1)
    mantissa ++ "e" ++ (if 0 ≤ first then style.exponentPlus else "") ++ intText first

def FloatStyle.write (style : FloatStyle) (f : Float) : String :=
  let bits := f.toBits
  let sign := if bits >>> 63 = 1 then "-" else ""
  match (Decimal.Binary.ofBits? bits).bind Decimal.Binary.shortest? with
  | some s => sign ++ style.positive s
  | none => sign ++ "0" ++ style.wholeEnd

end IdentityProvider.Json
