import IdentityProvider.Modular
import Mathlib.Data.Int.ModEq

/-!
# Powers and inverses modulo a number

Both are smaller than the modulus (`pow_lt`, `inverse?_lt`). Euclid's algorithm finds an
inverse of every number that has no factor in common with the modulus
(`inverse?_of_coprime`).
-/

namespace IdentityProvider.Modular

variable {a b n modulus : Nat} {x y : Int}

theorem pow_lt (base exponent : Nat) (hmodulus : 0 < modulus) :
    pow base exponent modulus < modulus := by
  rw [pow]
  dsimp only
  split
  · exact Nat.mod_lt _ hmodulus
  split
  · exact Nat.mod_lt _ hmodulus
  · exact Nat.mod_lt _ hmodulus

/-- What the algorithm keeps: each remainder is a multiple of the number to invert. -/
theorem euclid_of_coprime (hx : (a : Int) ≡ x * n [ZMOD modulus])
    (hy : (b : Int) ≡ y * n [ZMOD modulus]) (h : Nat.Coprime a b) :
    ∃ z, euclid a b x y = some z ∧ z * n ≡ 1 [ZMOD modulus] := by
  induction a, b, x, y using euclid.induct with
  | case1 x y => exact ⟨x, by simp [euclid], hx.symm⟩
  | case2 a x y ha =>
    rw [Nat.coprime_zero_right] at h
    exact (ha h).elim
  | case3 a b x y hb ih =>
    have hrest : ((a % b : Nat) : Int) ≡ (x - (a / b : Nat) * y) * n [ZMOD modulus] := by
      have hdivision : ((a % b : Nat) : Int) = a - (a / b : Nat) * b := by
        have hsplit := Nat.mod_add_div a b
        have hcomm := Nat.mul_comm b (a / b)
        omega
      calc ((a % b : Nat) : Int) = a - (a / b : Nat) * b := hdivision
        _ ≡ x * n - (a / b : Nat) * (y * n) [ZMOD modulus] := hx.sub (hy.mul_left _)
        _ = (x - (a / b : Nat) * y) * n := by rw [Int.sub_mul, Int.mul_assoc]
    have hcoprime : Nat.Coprime b (a % b) := by
      rwa [Nat.Coprime, Nat.gcd_comm, ← Nat.gcd_rec, Nat.gcd_comm]
    rw [euclid, if_neg hb]
    exact ih hy hrest hcoprime

theorem inverse?_lt {i : Nat} (hmodulus : 0 < modulus) (h : inverse? n modulus = some i) :
    i < modulus := by
  obtain ⟨z, -, rfl⟩ := Option.map_eq_some_iff.mp h
  have hpos : (0 : Int) < modulus := by exact_mod_cast hmodulus
  have hlt := Int.emod_lt_of_pos z hpos
  omega

theorem inverse?_of_coprime (hmodulus : 0 < modulus) (h : Nat.Coprime n modulus) :
    ∃ i, inverse? n modulus = some i ∧ i * n % modulus = 1 % modulus := by
  have hself : (n : Int) ≡ 1 * n [ZMOD modulus] := by rw [Int.one_mul]
  have hzero : (modulus : Int) ≡ 0 * n [ZMOD modulus] := by simp [Int.ModEq]
  obtain ⟨z, hz, hinverse⟩ := euclid_of_coprime hself hzero h
  have hpos : (0 : Int) < modulus := by exact_mod_cast hmodulus
  have hnonneg := Int.emod_nonneg z hpos.ne'
  refine ⟨(z % modulus).toNat, by rw [inverse?, hz]; rfl, ?_⟩
  have hresidue : (((z % modulus).toNat * n : Nat) : Int) ≡ (1 : Nat) [ZMOD modulus] := by
    rw [Nat.cast_mul, Int.toNat_of_nonneg hnonneg]
    exact ((Int.mod_modEq z modulus).mul_right _).trans hinverse
  exact Int.natCast_modEq_iff.mp hresidue

end IdentityProvider.Modular
