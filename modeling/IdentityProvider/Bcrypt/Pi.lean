/-!
# The binary digits of π

The tables of Blowfish are the fraction of π in words of 32 bits. The digits
come from Machin's formula, `π = 16 arctan (1/5) - 4 arctan (1/239)`, computed
in whole numbers with some bits to spare.
-/

namespace IdentityProvider.Bcrypt

/-- Adds the remaining terms of the series; each is the last divided by `square`. -/
def arctanTerms (square : Nat) (power odd : Nat) (plus : Bool) (sum : Int) : Nat → Int
  | 0 => sum
  | fuel + 1 =>
    if power = 0 then sum
    else
      let term : Int := power / odd
      arctanTerms square (power / square) (odd + 2) (!plus) (if plus then sum + term else sum - term)
        fuel

/-- `unit * arctan (1 / x)`, rounded term by term. Each term is at least halved. -/
def arctanInverse (x unit : Nat) : Int :=
  arctanTerms (x * x) (unit / x) 1 true 0 (unit.log2 + 1)

def spareBits : Nat := 64

/-- `π` times a power of two, rounded down. -/
def piScaled (bits : Nat) : Nat :=
  let unit := 1 <<< (bits + spareBits)
  ((16 * arctanInverse 5 unit - 4 * arctanInverse 239 unit) >>> spareBits).toNat

/-- The first words of the fraction. -/
def piWords (count : Nat) : Array UInt32 :=
  let digits := piScaled (32 * count)
  Array.ofFn fun i : Fin count => UInt32.ofNat (digits >>> (32 * (count - 1 - i.val)) % UInt32.size)

end IdentityProvider.Bcrypt
