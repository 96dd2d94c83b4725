import IdentityProvider.Json.Read
import IdentityProvider.Proofs.Chain
import IdentityProvider.Proofs.Json.Lexing
import Mathlib.Data.List.Nodup

/-!
# Plain values are read as they were written

A string's source resolves to the bytes it was made from, a whole number has the
value whose digits it is, and a name is found at its own place.
-/

namespace IdentityProvider.Json

open Decimal (reversedDigits)

-- ----- Strings

theorem codePointBytes_control {n : Nat} (h : n < 32) : codePointBytes n = [UInt8.ofNat n] := by
  revert n
  decide +kernel

/-- A control character's code unit is no surrogate and stands for itself. -/
theorem resolve_control {n : Nat} (h : n < 32) (rest : List Piece) :
    resolve .quote (.unit n :: rest) = (resolve .quote rest).map (UInt8.ofNat n :: ·) := by
  have hlow : isLowSurrogate n = false := by
    simp [isLowSurrogate]
    omega
  have hhigh : isHighSurrogate n = false := by
    simp [isHighSurrogate]
    omega
  cases rest <;> simp [resolve, hlow, hhigh, codePointBytes_control h, StringEnd.fault?, Except.map]

theorem resolve_spelled {b : UInt8} {piece : Piece} (h : Spelled b piece) (rest : List Piece) :
    resolve .quote (piece :: rest) = (resolve .quote rest).map (b :: ·) := by
  cases h with
  | letter _ hbyte => rw [resolve, hbyte]
  | unit hlow => rw [resolve_control hlow, UInt8.ofNat_toNat]
  | byte => rfl

theorem resolve_ofBytes (bs : Bytes) : resolve .quote (bs.map Piece.ofByte) = .ok bs := by
  induction bs with
  | nil => rfl
  | cons b bs ih =>
    rw [List.map_cons, resolve_spelled (Piece.spelled_ofByte b), ih]
    rfl

theorem text_ofText (s : String) : (StringSource.ofText s).text = .ok s := by
  have hbytes : resolve (StringSource.ofText s).stop (StringSource.ofText s).pieces =
      .ok (Bytes.ofString s) := resolve_ofBytes (Bytes.ofString s)
  rw [StringSource.text, bind_of_ok _ hbytes, Bytes.toString?_ofString]

theorem readText_stringToken (expected s : String) (rest : List Token) :
    readText expected (stringToken s :: rest) = .ok (s, rest) := by
  simp only [stringToken, readText, text_ofText]
  rfl

-- ----- Whole numbers

/-- The number whose digits follow those of `start`. -/
def withDigits (start : Nat) (ds : List Nat) : Nat := ds.foldl (fun n d => n * 10 + d) start

theorem le_withDigits (start : Nat) (ds : List Nat) : start ≤ withDigits start ds := by
  induction ds generalizing start with
  | nil => exact Nat.le_refl start
  | cons d ds ih =>
    have h := ih (start * 10 + d)
    simp only [withDigits, List.foldl_cons] at h ⊢
    omega

theorem withDigits_reversedDigits (n : Nat) : withDigits 0 (reversedDigits n).reverse = n := by
  induction n using Nat.strongRecOn with
  | ind n ih =>
    by_cases hn : n = 0
    · rw [hn, reversedDigits, if_pos rfl]
      rfl
    · have hrest := ih (n / 10) (by omega)
      rw [withDigits] at hrest
      rw [reversedDigits, if_neg hn, List.reverse_cons, withDigits, List.foldl_append, hrest]
      simp only [List.foldl_cons, List.foldl_nil]
      omega

theorem withDigits_wholeDigits (n : Nat) : withDigits 0 (wholeDigits n) = n := by
  unfold wholeDigits
  split
  · rename_i h
    rw [h]
    rfl
  · exact withDigits_reversedDigits n

/-- Digits whose number fits into the significand are all taken. -/
theorem takeWhole_of_lt {start : Nat} {ds : List Nat} (h : withDigits start ds < UInt64.size) :
    takeWhole start ds = ⟨withDigits start ds, 0⟩ := by
  induction ds generalizing start with
  | nil => rfl
  | cons d ds ih =>
    have hle : start * 10 + d ≤ withDigits start (d :: ds) := le_withDigits (start * 10 + d) ds
    have hfits : fits start d = true := by
      simp only [fits, decide_eq_true_eq]
      omega
    simp only [takeWhole, hfits, if_true]
    exact ih h

theorem takeWhole_wholeDigits {n : Nat} (h : n < UInt64.size) :
    takeWhole 0 (wholeDigits n) = ⟨n, 0⟩ := by
  have hn := withDigits_wholeDigits n
  rw [takeWhole_of_lt (by omega), hn]

theorem value_natural {n : Nat} (h : n < UInt64.size) :
    Numeral.value ⟨false, wholeDigits n, [], none⟩ = .ok (.natural n) := by
  simp [Numeral.value, Numeral.isInteger, takeWhole_wholeDigits h]

theorem value_negative {n : Nat} (hpos : 0 < n) (h : n ≤ 0x8000000000000000) :
    Numeral.value ⟨true, wholeDigits n, [], none⟩ = .ok (.negative (-(n : Int))) := by
  have hrange : 0 < n ∧ n ≤ 0x8000000000000000 := ⟨hpos, h⟩
  have hwhole := takeWhole_wholeDigits (n := n) (Nat.lt_of_le_of_lt h (by decide))
  unfold Numeral.value
  rw [hwhole]
  exact if_pos hrange

theorem ofInt?_int64 {k : Int} (hlow : -0x8000000000000000 ≤ k) (hhigh : k < 0x8000000000000000) :
    Word.int64.ofInt? k = some (Int64.ofInt k) := by
  rw [Word.ofInt?, if_pos ⟨hlow, hhigh⟩]

theorem ofInt?_uint32 {n : Nat} (h : n < UInt32.size) :
    Word.uint32.ofInt? n = some (UInt32.ofNat n) := by
  rw [Word.ofInt?, if_pos (by omega), Int.toNat_natCast]

theorem ofInt?_uint64 {n : Nat} (h : n < UInt64.size) :
    Word.uint64.ofInt? n = some (UInt64.ofNat n) := by
  rw [Word.ofInt?, if_pos (by omega), Int.toNat_natCast]

theorem Word.ofInt?_toInt (w : Word) (v : w.Value) : w.ofInt? (w.toInt v) = some v := by
  cases w with
  | int64 =>
    exact (ofInt?_int64 (Int64.le_toInt v) (Int64.toInt_lt v)).trans
      (congrArg some (Int64.ofInt_toInt v))
  | uint32 =>
    exact (ofInt?_uint32 (UInt32.toNat_lt_size v)).trans (congrArg some UInt32.ofNat_toNat)
  | uint64 =>
    exact (ofInt?_uint64 (UInt64.toNat_lt_size v)).trans (congrArg some UInt64.ofNat_toNat)

theorem Word.toInt_bounds (w : Word) (v : w.Value) :
    -0x8000000000000000 ≤ w.toInt v ∧ w.toInt v < UInt64.size := by
  cases w with
  | int64 =>
    have hlow := Int64.le_toInt v
    have hhigh := Int64.toInt_lt v
    simp only [Word.toInt, UInt64.size]
    omega
  | uint32 =>
    have hhigh := UInt32.toNat_lt v
    simp only [Word.toInt, UInt64.size]
    omega
  | uint64 =>
    have hhigh := UInt64.toNat_lt v
    simp only [Word.toInt, UInt64.size]
    omega

theorem readInteger_integerToken (w : Word) (v : w.Value) (rest : List Token) :
    readInteger w (integerToken (w.toInt v) :: rest) = .ok (v, rest) := by
  have hword := w.ofInt?_toInt v
  obtain ⟨hlow, hhigh⟩ := w.toInt_bounds v
  cases hk : w.toInt v with
  | ofNat n =>
    rw [hk] at hword hlow hhigh
    have hvalue := value_natural (n := n) (by simpa using hhigh)
    have hcoe : w.ofInt? (n : Int) = some v := hword
    simp only [integerToken, readInteger, hvalue, liftFault, bind_of_ok _ rfl, hcoe]
  | negSucc n =>
    rw [hk] at hword hlow hhigh
    have hvalue := value_negative (n := n + 1) (by omega) (by omega)
    have hcoe : w.ofInt? (-((n + 1 : Nat) : Int)) = some v := hword
    simp only [integerToken, readInteger, hvalue, liftFault, bind_of_ok _ rfl, hcoe]

-- ----- Names

theorem indexOf?_getElem {names : List String} (h : names.Nodup) (i : Fin names.length) :
    indexOf? names[i] names = some i := by
  rw [indexOf?, List.finIdxOf?_eq_some_iff]
  refine ⟨rfl, ?_⟩
  intro j hj heq
  exact absurd (h.injective_get heq) (Fin.ne_of_lt hj)

theorem readChoice_stringToken {names : List String} (h : names.Nodup) (i : Fin names.length)
    (rest : List Token) : readChoice names (stringToken names[i] :: rest) = .ok (i, rest) := by
  have htext := readText_stringToken "variant identifier" names[i] rest
  rw [stringToken] at htext ⊢
  rw [readChoice, readName, bind_of_ok _ htext]
  simp only [indexOf?_getElem h]

end IdentityProvider.Json
