import Mathlib.NumberTheory.LucasPrimality

/-!
# Certificates of primality

A number is prime if some residue has as many powers modulo it as there are nonzero
residues. Which powers are enough to see this depends on the prime factors of the
number less one, so a certificate lists numbers in ascending order with a generator
and those factors, each of them certified before (`prime_of_certified`).
-/

namespace IdentityProvider.Primality

-- ----- Powers

/-- The residue of a power, along the bits of the exponent from the highest down. -/
def residue (base modulus : Nat) : (bits : Nat) → Nat → Nat
  | 0, _ => 1 % modulus
  | bits + 1, n => step n (residue base modulus bits (n / 2))
where
  /-- The power whose exponent has one bit more. -/
  step (n half : Nat) : Nat :=
    if n % 2 = 0 then half * half % modulus else half * half % modulus * base % modulus

theorem residue_eq {base modulus bits n : Nat} (h : n < 2 ^ bits) :
    residue base modulus bits n = base ^ n % modulus := by
  induction bits generalizing n with
  | zero =>
    have hn : n = 0 := by omega
    rw [hn, residue, pow_zero]
  | succ bits ih =>
    have hhalf : n / 2 < 2 ^ bits := by
      rw [pow_succ] at h
      omega
    have hsquare : base ^ (n / 2) % modulus * (base ^ (n / 2) % modulus) % modulus =
        base ^ (2 * (n / 2)) % modulus := by
      rw [← Nat.mul_mod, ← pow_add, two_mul]
    rw [residue, residue.step, ih hhalf]
    split
    · rename_i heven
      rw [hsquare, Nat.mul_div_cancel' (Nat.dvd_of_mod_eq_zero heven)]
    · rename_i hodd
      have hn : n = 2 * (n / 2) + 1 := by omega
      rw [hsquare, Nat.mod_mul_mod, ← pow_succ, ← hn]

-- ----- Certificates

/-- A number, a residue that generates all others, and the prime factors of the
number less one with their multiplicities. -/
structure Certificate where
  number : Nat
  generator : Nat
  factors : List Nat

namespace Certificate

/-- The factors are known primes, and no proper power of the generator is one. -/
def holds (known : List Nat) (c : Certificate) : Bool :=
  let power := residue c.generator c.number (c.number.log2 + 1)
  1 < c.number && c.factors.all known.contains && c.factors.prod == c.number - 1 &&
    power (c.number - 1) == 1 && c.factors.all fun q => power ((c.number - 1) / q) != 1

theorem prime_of_holds {known : List Nat} {c : Certificate} (hknown : ∀ q ∈ known, q.Prime)
    (h : c.holds known) : c.number.Prime := by
  simp only [holds, Bool.and_eq_true, decide_eq_true_eq, List.all_eq_true, beq_iff_eq, bne_iff_ne,
    List.contains_iff_mem] at h
  obtain ⟨⟨⟨⟨htwo, hfactors⟩, hprod⟩, hone⟩, hothers⟩ := h
  have hpower {n : Nat} (hn : n ≤ c.number - 1) : (c.generator : ZMod c.number) ^ n = 1 ↔
      residue c.generator c.number (c.number.log2 + 1) n = 1 := by
    have hnumber : c.number < 2 ^ (c.number.log2 + 1) := Nat.lt_log2_self
    have hsmall : n < 2 ^ (c.number.log2 + 1) := by omega
    rw [residue_eq hsmall, ← Nat.cast_pow, ← Nat.cast_one, ZMod.natCast_eq_natCast_iff',
      Nat.mod_eq_of_lt htwo]
  refine lucas_primality c.number c.generator ((hpower le_rfl).mpr hone) fun q hq hdvd => ?_
  rw [← hprod] at hdvd
  obtain ⟨r, hr, hqr⟩ := (Prime.dvd_prod_iff hq.prime).mp hdvd
  obtain rfl := (Nat.prime_dvd_prime_iff_eq hq (hknown r (hfactors r hr))).mp hqr
  rw [Ne, hpower (Nat.div_le_self _ _)]
  exact hothers q hr

/-- Each certificate holds once the numbers before it are known to be prime. -/
def holdInTurn : (known : List Nat) → List Certificate → Bool
  | _, [] => true
  | known, c :: rest => c.holds known && holdInTurn (c.number :: known) rest

theorem prime_of_certified {known : List Nat} {cs : List Certificate}
    (hknown : ∀ q ∈ known, q.Prime) (h : holdInTurn known cs) : ∀ c ∈ cs, c.number.Prime := by
  induction cs generalizing known with
  | nil => simp
  | cons c rest ih =>
    rw [holdInTurn, Bool.and_eq_true] at h
    have hc := prime_of_holds hknown h.1
    exact List.forall_mem_cons.mpr ⟨hc, ih (List.forall_mem_cons.mpr ⟨hc, hknown⟩) h.2⟩

end Certificate

end IdentityProvider.Primality
