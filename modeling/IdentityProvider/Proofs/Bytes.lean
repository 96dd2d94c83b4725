import IdentityProvider.Bytes
import Mathlib.Algebra.Order.Ring.Nat

/-!
# Byte strings as wholes

To compare byte strings in full is to compare them (`equalInFull_iff`), and
bytes below 128 are the UTF-8 form of the text that shows each of them as one
character (`ofString_ascii`), also where they begin the form of a longer text
(`exists_of_ofString_append`). The digits of a number are read back as that number
(`toNat_digits`).
-/

namespace IdentityProvider.Bytes

-- ----- Comparing

theorem or_eq_zero_iff {x y : UInt8} : x ||| y = 0 ↔ x = 0 ∧ y = 0 := by
  simp only [← UInt8.toBitVec_inj, UInt8.toBitVec_or, UInt8.toBitVec_zero]
  exact BitVec.or_eq_zero_iff

/-- A difference that was found is kept to the end. -/
theorem foldl_difference_eq_zero_iff (start : UInt8) (ps : List (UInt8 × UInt8)) :
    ps.foldl (fun diff p => diff ||| (p.1 ^^^ p.2)) start = 0 ↔
      start = 0 ∧ ∀ p ∈ ps, p.1 = p.2 := by
  induction ps generalizing start with
  | nil => simp
  | cons p ps ih =>
    rw [List.foldl_cons, ih, or_eq_zero_iff, UInt8.xor_eq_zero_iff, List.forall_mem_cons, and_assoc]

theorem eq_of_zip {xs ys : Bytes} (hlength : xs.length = ys.length)
    (h : ∀ p ∈ xs.zip ys, p.1 = p.2) : xs = ys := by
  refine List.ext_getElem hlength fun i hx hy => ?_
  have hmem : (xs[i], ys[i]) ∈ xs.zip ys :=
    List.mem_iff_getElem.mpr ⟨i, by simp; omega, by simp⟩
  exact h _ hmem

theorem eq_of_mem_zip_self {xs : Bytes} {p : UInt8 × UInt8} (h : p ∈ xs.zip xs) : p.1 = p.2 := by
  obtain ⟨i, hi, rfl⟩ := List.mem_iff_getElem.mp h
  simp

theorem equalInFull_iff {a b : Bytes} : equalInFull a b = true ↔ a = b := by
  simp only [equalInFull, Bool.and_eq_true, beq_iff_eq, foldl_difference_eq_zero_iff, true_and]
  constructor
  · rintro ⟨hlength, hzip⟩
    exact eq_of_zip hlength hzip
  · rintro rfl
    exact ⟨rfl, fun p hp => eq_of_mem_zip_self hp⟩

theorem equalInFull_eq_decide (a b : Bytes) : equalInFull a b = decide (a = b) := by
  rw [Bool.eq_iff_iff, equalInFull_iff, decide_eq_true_iff]

-- ----- ASCII

theorem toNat_val_ofNat (b : UInt8) : (Char.ofNat b.toNat).val.toNat = b.toNat := by
  have hlt := b.toNat_lt
  rw [Char.ofNat, dif_pos (Or.inl (by omega))]
  rfl

theorem utf8EncodeChar_of_lt {b : UInt8} (h : b.toNat < 128) :
    String.utf8EncodeChar (Char.ofNat b.toNat) = [b] := by
  have hsmall : b.toNat ≤ 127 := by omega
  simp only [String.utf8EncodeChar, toNat_val_ofNat, hsmall, if_true, UInt8.ofNat_toNat]

theorem ofString_ofList (cs : List Char) :
    ofString (String.ofList cs) = cs.flatMap String.utf8EncodeChar := by
  simp [ofString, List.utf8Encode]

theorem ofString_ascii {bs : Bytes} (h : ∀ b ∈ bs, b.toNat < 128) : ofString (ascii bs) = bs := by
  rw [ascii, ofString_ofList]
  induction bs with
  | nil => rfl
  | cons b bs ih =>
    obtain ⟨hb, hrest⟩ := List.forall_mem_cons.mp h
    rw [List.map_cons, List.flatMap_cons, utf8EncodeChar_of_lt hb, ih hrest]
    rfl

theorem toString?_of_ascii {bs : Bytes} (h : ∀ b ∈ bs, b.toNat < 128) :
    toString? bs = some (ascii bs) := by
  have htext := toString?_ofString (ascii bs)
  rwa [ofString_ascii h] at htext

/-- A character whose UTF-8 form begins with a byte below 128 is that byte. -/
theorem eq_of_utf8EncodeChar {c : Char} {b : UInt8} {rest : Bytes}
    (h : String.utf8EncodeChar c = b :: rest) (hb : b.toNat < 128) :
    c = Char.ofNat b.toNat ∧ rest = [] := by
  unfold String.utf8EncodeChar at h
  dsimp only at h
  split at h
  · rename_i hsmall
    rw [List.cons.injEq] at h
    obtain ⟨rfl, rfl⟩ := h
    have hvalue : (UInt8.ofNat c.val.toNat).toNat = c.toNat :=
      UInt8.toNat_ofNat_of_lt' (show c.val.toNat < 256 by omega)
    rw [hvalue, Char.ofNat_toNat]
    exact ⟨rfl, rfl⟩
  -- The first of several bytes is above 128.
  repeat' split at h
  all_goals
    rw [List.cons.injEq] at h
    obtain ⟨rfl, -⟩ := h
    rw [UInt8.toNat_ofNat'] at hb
    omega

theorem exists_of_ofString_append {s : String} {bs rest : Bytes}
    (h : ofString s = bs ++ rest) (hascii : ∀ b ∈ bs, b.toNat < 128) :
    ∃ cs, s.toList = (ascii bs).toList ++ cs := by
  rw [← String.ofList_toList (s := s), ofString_ofList] at h
  rw [ascii, String.toList_ofList]
  generalize s.toList = cs at h
  induction bs generalizing cs with
  | nil => exact ⟨cs, rfl⟩
  | cons b bs ih =>
    obtain ⟨hb, hbs⟩ := List.forall_mem_cons.mp hascii
    cases cs with
    | nil => simp at h
    | cons c cs =>
      obtain ⟨b', tail, hc⟩ := List.exists_cons_of_ne_nil (String.utf8EncodeChar_ne_nil (c := c))
      rw [List.flatMap_cons, hc, List.cons_append, List.cons_append, List.cons.injEq] at h
      obtain ⟨rfl, h⟩ := h
      obtain ⟨rfl, rfl⟩ := eq_of_utf8EncodeChar hc hb
      obtain ⟨cs', hcs'⟩ := ih hbs cs h
      exact ⟨cs', by rw [hcs']; rfl⟩

-- ----- Texts

/-- A text has no more characters than bytes. -/
theorem length_toList_le (s : String) : s.toList.length ≤ (ofString s).length := by
  rw [← String.ofList_toList (s := s), ofString_ofList, String.toList_ofList]
  induction s.toList with
  | nil => rfl
  | cons c cs ih =>
    have hc := c.utf8Size_pos
    rw [List.flatMap_cons, List.length_append, String.length_utf8EncodeChar, List.length_cons]
    omega

theorem ofString_of_toString? {bs : Bytes} (h : toString? bs = some s) :
    ofString s = bs := by
  unfold toString? String.fromUTF8? at h
  split at h
  · cases h
    rfl
  · cases h

-- ----- Numbers

theorem toNat_append_singleton (bs : Bytes) (b : UInt8) :
    toNat (bs ++ [b]) = toNat bs * 256 + b.toNat := by
  simp [toNat]

theorem toNat_ofNat {width n : Nat} (h : n < 256 ^ width) : toNat (ofNat width n) = n := by
  induction width generalizing n with
  | zero =>
    have hn : n = 0 := by omega
    rw [hn]
    rfl
  | succ width ih =>
    have hrest : n / 256 < 256 ^ width := by
      rw [Nat.pow_succ] at h
      omega
    have hdigit : (UInt8.ofNat (n % 256)).toNat = n % 256 :=
      UInt8.toNat_ofNat_of_lt' (Nat.mod_lt n (by decide))
    rw [ofNat, toNat_append_singleton, ih hrest, hdigit]
    omega

/-- A number of `digitCount n` digits is what `n` is, and no fewer will do. -/
theorem lt_pow_digitCount (n : Nat) : n < 256 ^ digitCount n := by
  unfold digitCount
  split
  · omega
  · have hlog := Nat.lt_log2_self (n := n)
    have hbits : n.log2 + 1 ≤ 8 * (n.log2 / 8 + 1) := by omega
    calc n < 2 ^ (n.log2 + 1) := hlog
      _ ≤ 2 ^ (8 * (n.log2 / 8 + 1)) := Nat.pow_le_pow_right (by decide) hbits
      _ = 256 ^ (n.log2 / 8 + 1) := by rw [Nat.pow_mul]

theorem digitCount_le {width n : Nat} (h : n < 256 ^ width) : digitCount n ≤ width := by
  unfold digitCount
  split
  · exact Nat.zero_le _
  · rename_i hn
    have hbits : n.log2 < 8 * width := by
      rw [Nat.log2_lt hn, Nat.pow_mul]
      exact h
    omega

theorem toNat_digits (n : Nat) : toNat (digits n) = n := toNat_ofNat (lt_pow_digitCount n)

theorem length_digits (n : Nat) : (digits n).length = digitCount n := length_ofNat _ _

theorem digitCount_mono {m n : Nat} (h : m ≤ n) : digitCount m ≤ digitCount n :=
  digitCount_le (h.trans_lt (lt_pow_digitCount n))

theorem digitCount_mul_le (m n : Nat) : digitCount (m * n) ≤ digitCount m + digitCount n := by
  apply digitCount_le
  rw [Nat.pow_add]
  exact Nat.mul_lt_mul'' (lt_pow_digitCount m) (lt_pow_digitCount n)

end IdentityProvider.Bytes
