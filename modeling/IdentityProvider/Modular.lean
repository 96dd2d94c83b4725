/-!
# Arithmetic modulo a number
-/

namespace IdentityProvider.Modular

/-- Squares and multiplies along the bits of the exponent. -/
def pow (base exponent modulus : Nat) : Nat :=
  if exponent = 0 then 1 % modulus
  else
    let half := pow base (exponent / 2) modulus
    let square := half * half % modulus
    if exponent % 2 = 1 then square * base % modulus else square
  termination_by exponent

/-- Runs Euclid's algorithm on `a` and `b`, which stand for `x` and `y` times
the number to invert, up to the remainder one. -/
def euclid (a b : Nat) (x y : Int) : Option Int :=
  if b = 0 then if a = 1 then some x else none
  else euclid b (a % b) y (x - (a / b : Nat) * y)
  termination_by b
  decreasing_by exact Nat.mod_lt _ (by omega)

/-- The number that multiplies with this one to one. -/
def inverse? (n modulus : Nat) : Option Nat :=
  (euclid n modulus 1 0).map fun x => (x % (modulus : Int)).toNat

end IdentityProvider.Modular
