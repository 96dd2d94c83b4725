import IdentityProvider.P256
import IdentityProvider.Proofs.Bytes
import IdentityProvider.Proofs.Modular
import IdentityProvider.Proofs.Primality
import Mathlib.Tactic.LinearCombination

/-!
# The points of P-256

Doubling and adding stay on the curve, so every multiple of a point that is not at
infinity is a point of the curve (`Scalar.onCurve_point`). In whichever form a point is
read, it is a point of the curve (`Point.onCurve_of_read`), and what is written of a point
of the curve is read back (`Point.read_write`). Divisions are possible because the
modulus of the curve is a prime (`prime_prime`).
-/

namespace IdentityProvider.P256

-- ----- The prime

/-- Certificates of the modulus and of every prime that its own depends on. -/
def certificates : List Primality.Certificate :=
  [⟨2, 3, []⟩, ⟨3, 2, [2]⟩, ⟨5, 2, [2, 2]⟩, ⟨7, 3, [2, 3]⟩, ⟨11, 2, [2, 5]⟩, ⟨13, 2, [2, 2, 3]⟩,
   ⟨17, 3, [2, 2, 2, 2]⟩, ⟨23, 5, [2, 11]⟩, ⟨43, 3, [2, 3, 7]⟩, ⟨53, 2, [2, 2, 13]⟩,
   ⟨107, 2, [2, 53]⟩, ⟨157, 5, [2, 2, 3, 13]⟩, ⟨173, 2, [2, 2, 43]⟩, ⟨181, 2, [2, 2, 3, 3, 5]⟩,
   ⟨197, 2, [2, 2, 7, 7]⟩, ⟨241, 7, [2, 2, 2, 2, 3, 5]⟩, ⟨257, 3, [2, 2, 2, 2, 2, 2, 2, 2]⟩,
   ⟨313, 10, [2, 2, 2, 3, 13]⟩, ⟨641, 3, [2, 2, 2, 2, 2, 2, 2, 5]⟩, ⟨661, 2, [2, 2, 3, 5, 11]⟩,
   ⟨727, 5, [2, 3, 11, 11]⟩, ⟨757, 2, [2, 2, 3, 3, 3, 7]⟩, ⟨919, 7, [2, 3, 3, 3, 17]⟩,
   ⟨1087, 3, [2, 3, 181]⟩, ⟨1531, 2, [2, 3, 3, 5, 17]⟩, ⟨2411, 6, [2, 5, 241]⟩,
   ⟨3677, 2, [2, 2, 919]⟩, ⟨3769, 7, [2, 2, 2, 3, 157]⟩, ⟨4349, 2, [2, 2, 1087]⟩,
   ⟨17449, 14, [2, 2, 2, 3, 727]⟩, ⟨18169, 11, [2, 2, 2, 3, 757]⟩,
   ⟨65537, 3, [2, 2, 2, 2, 2, 2, 2, 2, 2, 2, 2, 2, 2, 2, 2, 2]⟩, ⟨78283, 3, [2, 3, 3, 4349]⟩,
   ⟨490463, 14, [2, 7, 53, 661]⟩, ⟨704251, 2, [2, 3, 3, 5, 5, 5, 313]⟩,
   ⟨6700417, 5, [2, 2, 2, 2, 2, 2, 2, 3, 17449]⟩, ⟨204061199, 11, [2, 11, 23, 107, 3769]⟩,
   ⟨34282281433, 17, [2, 2, 2, 3, 7, 204061199]⟩, ⟨66417393611, 6, [2, 5, 53, 173, 197, 3677]⟩,
   ⟨11290956913871, 13, [2, 5, 17, 66417393611]⟩,
   ⟨46076956964474543, 5, [2, 23, 18169, 78283, 704251]⟩,
   ⟨774023187263532362759620327192479577272145303, 3, [2, 3, 3, 2411, 34282281433, 11290956913871,
    46076956964474543]⟩,
   ⟨835945042244614951780389953367877943453916927241, 11, [2, 2, 2, 3, 3, 3, 5,
    774023187263532362759620327192479577272145303]⟩,
   ⟨115792089210356248762697446949407573530086143415290314195533631308867097853951, 6, [2, 3, 5, 5,
    17, 257, 641, 1531, 65537, 490463, 6700417, 835945042244614951780389953367877943453916927241]⟩]
theorem prime_prime : prime.Prime := by
  have hnone : ∀ q ∈ ([] : List Nat), q.Prime := by simp
  have hturn : Primality.Certificate.holdInTurn [] certificates := by decide +kernel
  have hall := Primality.Certificate.prime_of_certified hnone hturn
  have hlast : (certificates.getLast (by decide)).number = prime := by decide
  rw [← hlast]
  exact hall _ (List.getLast_mem _)

-- ----- The field

theorem prime_pos : 0 < prime := by decide

@[simp] theorem cast_add (a b : Nat) : (add a b : ZMod prime) = a + b := by
  rw [add, ZMod.natCast_mod, Nat.cast_add]

@[simp] theorem cast_mul (a b : Nat) : (mul a b : ZMod prime) = a * b := by
  rw [mul, ZMod.natCast_mod, Nat.cast_mul]

@[simp] theorem cast_sub (a b : Nat) : (sub a b : ZMod prime) = a - b := by
  have hle : b % prime ≤ prime := (Nat.mod_lt b prime_pos).le
  rw [sub, ZMod.natCast_mod, Nat.cast_add, Nat.cast_sub hle, ZMod.natCast_self, zero_sub,
    ZMod.natCast_mod, sub_eq_add_neg]

theorem mul_lt (a b : Nat) : mul a b < prime := Nat.mod_lt _ prime_pos

theorem sub_lt (a b : Nat) : sub a b < prime := Nat.mod_lt _ prime_pos

theorem cast_mul_inverse {a : Nat} (ha : a ≠ 0) (hlt : a < prime) :
    (a : ZMod prime) * (inverse a : ZMod prime) = 1 := by
  have hcoprime : Nat.Coprime a prime :=
    (Nat.coprime_of_lt_prime ha hlt prime_prime).symm
  obtain ⟨i, hi, hone⟩ := Modular.inverse?_of_coprime prime_pos hcoprime
  have hcast : ((i * a : Nat) : ZMod prime) = (1 : Nat) :=
    (ZMod.natCast_eq_natCast_iff' _ _ _).mpr hone
  rw [inverse, hi, Option.getD_some, mul_comm, ← Nat.cast_mul, hcast, Nat.cast_one]

-- ----- The curve

@[simp] theorem cast_curve (x : Nat) :
    (curve x : ZMod prime) = (x : ZMod prime) ^ 3 - 3 * x + constant := by
  simp only [curve, cast_add, cast_sub, cast_mul]
  ring

theorem Point.onCurve_iff {p : Point} : p.onCurve ↔ p.x < prime ∧ p.y < prime ∧
    (p.y : ZMod prime) ^ 2 = (p.x : ZMod prime) ^ 3 - 3 * p.x + constant := by
  have hequation : mul p.y p.y = curve p.x ↔ (mul p.y p.y : ZMod prime) = curve p.x := by
    rw [ZMod.natCast_eq_natCast_iff', Nat.mod_eq_of_lt (mul_lt _ _), curve, add, Nat.mod_mod]
  simp only [onCurve, Bool.and_eq_true, decide_eq_true_eq, beq_iff_eq, hequation, cast_mul,
    cast_curve, sq, and_assoc]

namespace Jacobian

/-- The coordinates satisfy the equation of the curve, and a third coordinate that
is zero in the field is zero. -/
structure OnCurve (p : Jacobian) : Prop where
  lt : p.z < prime
  equation : (p.y : ZMod prime) ^ 2 =
    (p.x : ZMod prime) ^ 3 - 3 * p.x * (p.z : ZMod prime) ^ 4 + constant * (p.z : ZMod prime) ^ 6

theorem onCurve_infinity : infinity.OnCurve where
  lt := by decide
  equation := by simp [infinity]

theorem onCurve_ofPoint {p : Point} (h : p.onCurve) : (ofPoint p).OnCurve where
  lt := prime_prime.one_lt
  equation := by
    rw [Point.onCurve_iff] at h
    simpa [ofPoint] using h.2.2

theorem onCurve_double {p : Jacobian} (h : p.OnCurve) : p.double.OnCurve where
  lt := sub_lt _ _
  equation := by
    simp only [double, cast_sub, cast_add, cast_mul, Nat.cast_ofNat]
    linear_combination (64 * (p.y : ZMod prime) ^ 6) * h.equation

/-- The chord through two points of the curve meets it in a third one. -/
theorem chord {R : Type} [CommRing R] {a b u₁ s₁ u₂ s₂ : R}
    (h₁ : s₁ ^ 2 = u₁ ^ 3 + a * u₁ + b) (h₂ : s₂ ^ 2 = u₂ ^ 3 + a * u₂ + b) {h r x y : R}
    (hh : h = u₂ - u₁) (hr : r = s₂ - s₁) (hx : x = r ^ 2 - (h ^ 3 + 2 * (u₁ * h ^ 2)))
    (hy : y = r * (u₁ * h ^ 2 - x) - s₁ * h ^ 3) :
    y ^ 2 = x ^ 3 + a * h ^ 4 * x + b * h ^ 6 := by
  have hslope : a * h = r * (s₁ + s₂) - h * (u₁ ^ 2 + u₁ * u₂ + u₂ ^ 2) := by
    rw [hh, hr]
    linear_combination h₁ - h₂
  have hconstant : b = s₁ ^ 2 - u₁ ^ 3 - a * u₁ := by linear_combination -h₁
  have hremoved : y ^ 2 = x ^ 3 + (r * (s₁ + s₂) - h * (u₁ ^ 2 + u₁ * u₂ + u₂ ^ 2)) * h ^ 3 * x +
      (s₁ ^ 2 - u₁ ^ 3) * h ^ 6 -
      (r * (s₁ + s₂) - h * (u₁ ^ 2 + u₁ * u₂ + u₂ ^ 2)) * u₁ * h ^ 5 := by
    subst hh hr hx hy
    ring
  linear_combination hremoved + (h ^ 5 * u₁ - h ^ 3 * x) * hslope - h ^ 6 * hconstant

theorem onCurve_add {p q : Jacobian} (hp : p.OnCurve) (hq : q.OnCurve) : (p.add q).OnCurve := by
  unfold add
  split
  · exact hq
  split
  · exact hp
  dsimp only
  split
  · split
    · exact onCurve_double hp
    · exact onCurve_infinity
  · refine ⟨mul_lt _ _, ?_⟩
    -- Scaled by the other's third coordinate, both points lie on one curve.
    have hp' : ((p.y : ZMod prime) * q.z ^ 3) ^ 2 = (p.x * q.z ^ 2) ^ 3 +
        -3 * (p.z * q.z : ZMod prime) ^ 4 * (p.x * q.z ^ 2) +
          constant * (p.z * q.z : ZMod prime) ^ 6 := by
      linear_combination (q.z : ZMod prime) ^ 6 * hp.equation
    have hq' : ((q.y : ZMod prime) * p.z ^ 3) ^ 2 = (q.x * p.z ^ 2) ^ 3 +
        -3 * (p.z * q.z : ZMod prime) ^ 4 * (q.x * p.z ^ 2) +
          constant * (p.z * q.z : ZMod prime) ^ 6 := by
      linear_combination (p.z : ZMod prime) ^ 6 * hq.equation
    have hchord := chord hp' hq' rfl rfl rfl rfl
    simp only [cast_sub, cast_add, cast_mul, Nat.cast_ofNat]
    linear_combination hchord

theorem onCurve_multiple {p : Jacobian} (h : p.OnCurve) (bits n : Nat) :
    (multiple bits n p).OnCurve := by
  induction bits generalizing n with
  | zero => exact onCurve_infinity
  | succ bits ih =>
    rw [multiple]
    split
    · exact onCurve_add (onCurve_double (ih _)) h
    · exact onCurve_double (ih _)

theorem onCurve_of_toPoint? {p : Jacobian} {point : Point} (h : p.OnCurve)
    (hpoint : p.toPoint? = some point) : point.onCurve := by
  unfold toPoint? at hpoint
  split at hpoint
  · cases hpoint
  · rename_i hz
    cases hpoint
    refine Point.onCurve_iff.mpr ⟨mul_lt _ _, mul_lt _ _, ?_⟩
    have hone := cast_mul_inverse hz h.lt
    have hfour := congrArg (· ^ 4) hone
    have hsix := congrArg (· ^ 6) hone
    simp only [cast_mul, one_pow] at hfour hsix ⊢
    linear_combination (inverse p.z : ZMod prime) ^ 6 * h.equation -
      3 * p.x * (inverse p.z : ZMod prime) ^ 2 * hfour + constant * hsix

end Jacobian

theorem onCurve_base : base.onCurve := by decide +kernel

/-- The point of every secret scalar is a point of the curve. -/
theorem Scalar.onCurve_point (s : Scalar) : s.point.onCurve := by
  unfold point
  cases hpoint : (multiple s.val base).toPoint? with
  | none => exact onCurve_base
  | some point =>
    have hmultiple := Jacobian.onCurve_multiple (Jacobian.onCurve_ofPoint onCurve_base) 256 s.val
    exact Jacobian.onCurve_of_toPoint? hmultiple hpoint

-- ----- Points over an x

theorem root?_eq_some {a r : Nat} (h : root? a = some r) : r < prime ∧ mul r r = a % prime := by
  simp only [root?] at h
  split at h
  · rename_i hsquare
    cases h
    exact ⟨Modular.pow_lt _ _ prime_pos, hsquare⟩
  · cases h

/-- With a point of the curve, its reflection is one. -/
theorem Point.onCurve_reflected {x y : Nat} (h : onCurve ⟨x, y⟩) : onCurve ⟨x, sub 0 y⟩ := by
  obtain ⟨hx, -, hequation⟩ := onCurve_iff.mp h
  refine onCurve_iff.mpr ⟨hx, sub_lt _ _, ?_⟩
  rw [cast_sub, Nat.cast_zero, zero_sub, neg_sq, hequation]

theorem onCurve_of_lift? {x even odd : Nat} (h : lift? x = some (even, odd)) :
    Point.onCurve ⟨x, even⟩ ∧ Point.onCurve ⟨x, odd⟩ := by
  unfold lift? at h
  split at h
  · rename_i hx
    obtain ⟨r, hroot, hpair⟩ := Option.map_eq_some_iff.mp h
    obtain ⟨hr, hsquare⟩ := root?_eq_some hroot
    have hpoint : Point.onCurve ⟨x, r⟩ := by
      rw [curve, add, Nat.mod_mod] at hsquare
      simp [Point.onCurve, hx, hr, hsquare, curve, add]
    have hreflected := Point.onCurve_reflected hpoint
    split at hpair
    · cases hpair
      exact ⟨hpoint, hreflected⟩
    · cases hpair
      exact ⟨hreflected, hpoint⟩
  · cases h

-- ----- Points as bytes

theorem toNat_coordinate {n : Nat} (h : n < prime) : Bytes.toNat (coordinate n) = n := by
  have hprime : prime < 256 ^ coordinateSize := by decide
  exact Bytes.toNat_ofNat (h.trans hprime)

theorem Point.onCurve_of_read {bs : Bytes} {p : Point} (h : Point.read bs = some p) :
    p.onCurve := by
  unfold read at h
  split at h
  · cases h
  · dsimp only at h
    split at h
    · split at h
      · rename_i hpoint
        cases h
        exact hpoint.2
      · cases h
    split at h
    · cases h
    split at h
    · cases h
    · rename_i even odd hlift
      obtain ⟨heven, hodd⟩ := onCurve_of_lift? hlift
      split at h
      · cases h
        exact heven
      split at h
      · cases h
        exact hodd
      split at h
      · cases h
        rcases Nat.le_total even odd with hle | hle
        · rwa [Nat.min_eq_left hle]
        · rwa [Nat.min_eq_right hle]
      · cases h

theorem Point.read_write {p : Point} (h : p.onCurve) : Point.read p.write = some p := by
  obtain ⟨hx, hy, -⟩ := Point.onCurve_iff.mp h
  have hlength (n : Nat) : (coordinate n).length = coordinateSize := Bytes.length_ofNat _ _
  simp only [write, List.cons_append, read, List.take_left' (hlength _), List.drop_left' (hlength _),
    toNat_coordinate hx, toNat_coordinate hy, List.length_append, hlength, if_true]
  rw [if_pos ⟨(two_mul _).symm, h⟩]

end IdentityProvider.P256
