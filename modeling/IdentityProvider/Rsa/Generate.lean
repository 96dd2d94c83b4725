import IdentityProvider.Entropy
import IdentityProvider.Rsa

/-!
# New RSA keys

Two primes of half the modulus's length each are searched for among random odd
numbers with the two highest bits set, so that their product has the full
length. A number counts as prime if no base of a fixed list tells otherwise.
-/

namespace IdentityProvider.Rsa

def newPublicExponent : Nat := 65537

-- ----- Primes

def witnessBases : List Nat :=
  [2, 3, 5, 7, 11, 13, 17, 19, 23, 29, 31, 37, 41, 43, 47, 53, 59, 61, 67, 71]

/-- How often a number can be halved, counted up to a limit. -/
def halvings : (limit : Nat) → Nat → Nat
  | 0, _ => 0
  | limit + 1, n => if n % 2 = 0 then halvings limit (n / 2) + 1 else 0

/-- Whether squaring so often, starting from `x`, meets minus one. -/
def meetsMinusOne (n : Nat) : (squarings : Nat) → Nat → Bool
  | 0, _ => false
  | k + 1, x => x == n - 1 || meetsMinusOne n k (x * x % n)

/-- Whether a base does not tell that an odd number is composite. -/
def passes (n base : Nat) : Bool :=
  let twos := halvings n.log2 (n - 1)
  let x := Modular.pow base ((n - 1) >>> twos) n
  base % n == 0 || x == 1 || meetsMinusOne n twos x

def seemsPrime (n : Nat) : Bool := 2 < n && n % 2 == 1 && witnessBases.all (passes n)

/-- An odd number of so many bits whose two highest bits are set. -/
def candidate (bits : Nat) (bytes : Bytes) : Nat :=
  let low := Bytes.toNat bytes % (1 <<< (bits - 2))
  (3 <<< (bits - 2)) + low / 2 * 2 + 1

def searchPrime (bits : Nat) : (tries : Nat) → Entropy → Option (Nat × Entropy)
  | 0, _ => none
  | tries + 1, e =>
    let (bytes, e) := e.draw (bits / 8)
    let n := candidate bits bytes
    if Nat.gcd (n - 1) newPublicExponent = 1 ∧ seemsPrime n then some (n, e)
    else searchPrime bits tries e

-- ----- Keys

/-- The key of two primes; equal ones make none. -/
def PrivateKey.ofPrimes? (p q : Nat) : Option PrivateKey := do
  let d ← Modular.inverse? newPublicExponent ((p - 1) * (q - 1))
  let key : PrivateKey := ⟨p * q, newPublicExponent, d, p, q⟩
  if p ≠ q ∧ key.isSound then some key else none

/-- Far more tries than there are numbers between two primes. -/
def maxTries : Nat := 100000

def PrivateKey.generate? (bits : Nat) (e : Entropy) : Option PrivateKey := do
  let (p, e) ← searchPrime (bits / 2) maxTries e
  let (q, _) ← searchPrime (bits / 2) maxTries e
  PrivateKey.ofPrimes? p q

end IdentityProvider.Rsa
