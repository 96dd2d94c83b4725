import IdentityProvider.Decimal
import Mathlib.Data.Nat.Digits.Defs

/-!
# Numbers are read as they were written

`uint32?_ofNat`: the digits written for a number are read as that number. What
is read as a number is a `Numeral`: digits after at most one plus sign. So neither
the comma between two costs nor the dollar sign after them is ever in it.
-/

namespace IdentityProvider.Decimal

-- ----- Digits

theorem digit?_digitByte {d : Nat} (h : d < 10) : digit? (digitByte d) = some d := by
  revert d
  decide +kernel

theorem digits?_append (start : Nat) (xs ys : Bytes) :
    digits? start (xs ++ ys) = (digits? start xs).bind (digits? · ys) := by
  induction xs generalizing start with
  | nil => rfl
  | cons x xs ih =>
    simp only [List.cons_append, digits?]
    cases digit? x with
    | none => rfl
    | some d => exact ih (start * 10 + d)

theorem digits?_singleton (start : Nat) {d : Nat} (h : d < 10) :
    digits? start [digitByte d] = some (start * 10 + d) := by
  simp [digits?, digit?_digitByte h]

theorem isSome_of_mem_digits? {start n : Nat} {bs : Bytes} (h : digits? start bs = some n)
    {b : UInt8} (hb : b ∈ bs) : (digit? b).isSome := by
  induction bs generalizing start with
  | nil => cases hb
  | cons c bs ih =>
    obtain ⟨d, hd, hrest⟩ := Option.bind_eq_some_iff.mp h
    rcases List.mem_cons.mp hb with rfl | hb
    · rw [hd]
      rfl
    · exact ih hrest hb

-- ----- Writing

theorem ofNat_of_lt {n : Nat} (h : n < 10) : ofNat n = [digitByte n] := by
  revert n
  decide +kernel

theorem ofNat_step {n : Nat} (h : 10 ≤ n) :
    ofNat n = ofNat (n / 10) ++ [digitByte (n % 10)] := by
  have hn : n ≠ 0 := by omega
  have htens : n / 10 ≠ 0 := by omega
  rw [ofNat, if_neg hn, reversedDigits, if_neg hn, ofNat, if_neg htens]
  simp

theorem ofNat_ne_nil (n : Nat) : ofNat n ≠ [] := by
  by_cases h : n < 10
  · simp [ofNat_of_lt h]
  · simp [ofNat_step (Nat.le_of_not_lt h)]

theorem digits?_ofNat (n : Nat) : digits? 0 (ofNat n) = some n := by
  induction n using Nat.strongRecOn with
  | ind n ih =>
    by_cases h : n < 10
    · rw [ofNat_of_lt h, digits?_singleton 0 h, Nat.zero_mul, Nat.zero_add]
    · have hlast : n % 10 < 10 := Nat.mod_lt n (by omega)
      have hvalue : n / 10 * 10 + n % 10 = n := by omega
      rw [ofNat_step (Nat.le_of_not_lt h), digits?_append, ih (n / 10) (by omega),
        Option.bind_some, digits?_singleton _ hlast, hvalue]

-- ----- Reading

theorem digits?_of_unsigned? {n : Nat} {bs : Bytes} (h : unsigned? bs = some n) :
    digits? 0 bs = some n ∨ ∃ rest, bs = plusSign :: rest ∧ digits? 0 rest = some n := by
  cases bs with
  | nil => cases h
  | cons b rest =>
    by_cases hb : b = plusSign
    · subst hb
      rw [unsigned?, if_pos rfl] at h
      cases rest with
      | nil => cases h
      | cons c rest => exact .inr ⟨_, rfl, h⟩
    · rw [unsigned?, if_neg hb] at h
      exact .inl h

theorem unsigned?_of_digits? {n : Nat} {bs : Bytes} (hne : bs ≠ []) (h : digits? 0 bs = some n) :
    unsigned? bs = some n := by
  cases bs with
  | nil => exact absurd rfl hne
  | cons b rest =>
    have hb : b ≠ plusSign := by
      rintro rfl
      cases h
    rw [unsigned?, if_neg hb]
    exact h

theorem not_mem_of_unsigned? {n : Nat} {bs : Bytes} (h : unsigned? bs = some n) {b : UInt8}
    (hdigit : digit? b = none) (hplus : b ≠ plusSign) : b ∉ bs := by
  intro hb
  have hrun : ∀ {run}, digits? 0 run = some n → b ∉ run := by
    intro run hrun hmem
    have hsome := isSome_of_mem_digits? hrun hmem
    rw [hdigit] at hsome
    cases hsome
  rcases digits?_of_unsigned? h with hdigits | ⟨rest, rfl, hrest⟩
  · exact hrun hdigits hb
  · rcases List.mem_cons.mp hb with rfl | hb
    · exact hplus rfl
    · exact hrun hrest hb

theorem lt_of_mem_unsigned? {n : Nat} {bs : Bytes} (h : unsigned? bs = some n) {b : UInt8}
    (hb : b ∈ bs) : b.toNat < 128 := by
  refine Nat.lt_of_not_le fun hlarge => ?_
  have hdigit : digit? b = none := by
    have hnine : ¬ b ≤ 57 := by
      rw [UInt8.le_iff_toNat_le]
      exact Nat.not_le_of_lt (Nat.lt_of_lt_of_le (by decide) hlarge)
    simp [digit?, hnine]
  have hplus : b ≠ plusSign := by
    rintro rfl
    exact absurd hlarge (by decide)
  exact not_mem_of_unsigned? h hdigit hplus hb

theorem unsigned?_ofNat (n : Nat) : unsigned? (ofNat n) = some n :=
  unsigned?_of_digits? (ofNat_ne_nil n) (digits?_ofNat n)

theorem lt_of_mem_ofNat {n : Nat} {b : UInt8} (hb : b ∈ ofNat n) : b.toNat < 128 :=
  lt_of_mem_unsigned? (unsigned?_ofNat n) hb

theorem uint32?_eq_some_iff {bs : Bytes} {n : UInt32} :
    uint32? bs = some n ↔ unsigned? bs = some n.toNat := by
  simp only [uint32?, Option.bind_eq_some_iff, Option.ite_none_right_eq_some, Option.some.injEq]
  constructor
  · rintro ⟨m, hm, hlt, rfl⟩
    rw [hm, UInt32.toNat_ofNat_of_lt' hlt]
  · intro h
    exact ⟨n.toNat, h, n.toNat_lt, UInt32.ofNat_toNat⟩

theorem uint32?_ofNat (n : UInt32) : uint32? (ofNat n.toNat) = some n :=
  uint32?_eq_some_iff.mpr (unsigned?_ofNat n.toNat)

-- ----- Numerals

def IsDigit (b : UInt8) : Prop := 48 ≤ b ∧ b ≤ 57

/-- The number that digits stand for in base ten. -/
def value (digits : Bytes) : Nat := Nat.ofDigits 10 (digits.reverse.map fun b => b.toNat - 48)

/-- One or more digits, after a plus sign or without one, that stand for a number. -/
def Numeral (text : Bytes) (n : Nat) : Prop :=
  ∃ digits, (text = digits ∨ text = plusSign :: digits) ∧ digits ≠ [] ∧
    (∀ b ∈ digits, IsDigit b) ∧ value digits = n

theorem value_cons (b : UInt8) (digits : Bytes) :
    value (b :: digits) = (b.toNat - 48) * 10 ^ digits.length + value digits := by
  simp [value, Nat.ofDigits_append, Nat.mul_comm, Nat.add_comm]

theorem digit?_eq_some_iff {b : UInt8} {d : Nat} :
    digit? b = some d ↔ IsDigit b ∧ b.toNat - 48 = d := by
  simp [digit?, IsDigit]

theorem digits?_eq_some_iff {start n : Nat} {bs : Bytes} :
    digits? start bs = some n ↔
      (∀ b ∈ bs, IsDigit b) ∧ start * 10 ^ bs.length + value bs = n := by
  induction bs generalizing start with
  | nil => simp [digits?, value]
  | cons b bs ih =>
    have hpower : (start * 10 + (b.toNat - 48)) * 10 ^ bs.length + value bs =
        start * 10 ^ (b :: bs).length + value (b :: bs) := by
      rw [value_cons, List.length_cons]
      ring
    simp only [digits?, bind, Option.bind_eq_some_iff, digit?_eq_some_iff, ih, List.forall_mem_cons]
    constructor
    · rintro ⟨d, ⟨hb, rfl⟩, hbs, hvalue⟩
      exact ⟨⟨hb, hbs⟩, hpower ▸ hvalue⟩
    · rintro ⟨⟨hb, hbs⟩, hvalue⟩
      exact ⟨_, ⟨hb, rfl⟩, hbs, hpower.trans hvalue⟩

theorem natural?_eq_some_iff {n : Nat} {bs : Bytes} :
    natural? bs = some n ↔ bs ≠ [] ∧ (∀ b ∈ bs, IsDigit b) ∧ value bs = n := by
  cases bs with
  | nil => simp [natural?]
  | cons b rest => simp [natural?, digits?_eq_some_iff]

theorem not_isDigit_plusSign : ¬ IsDigit plusSign := by
  rintro ⟨h, -⟩
  exact absurd h (by decide)

theorem unsigned?_eq_some_iff {n : Nat} {bs : Bytes} : unsigned? bs = some n ↔ Numeral bs n := by
  cases bs with
  | nil => simp [unsigned?, Numeral]
  | cons b rest =>
    by_cases hb : b = plusSign
    · subst hb
      rw [unsigned?, if_pos rfl, natural?_eq_some_iff]
      constructor
      · intro h
        exact ⟨rest, .inr rfl, h⟩
      · rintro ⟨digits, rfl | hrest, hne, hdigits, hvalue⟩
        · exact absurd (hdigits _ List.mem_cons_self) not_isDigit_plusSign
        · obtain rfl := (List.cons.inj hrest).2
          exact ⟨hne, hdigits, hvalue⟩
    · rw [unsigned?, if_neg hb, natural?_eq_some_iff]
      constructor
      · intro h
        exact ⟨_, .inl rfl, h⟩
      · rintro ⟨digits, rfl | hrest, h⟩
        · exact h
        · exact absurd (List.cons.inj hrest).1 hb

theorem numeral_ofNat (n : Nat) : Numeral (ofNat n) n :=
  unsigned?_eq_some_iff.mp (unsigned?_ofNat n)

theorem uint32?_eq_some_iff_numeral {n : UInt32} {bs : Bytes} :
    uint32? bs = some n ↔ Numeral bs n.toNat := by
  rw [uint32?_eq_some_iff, unsigned?_eq_some_iff]

end IdentityProvider.Decimal
