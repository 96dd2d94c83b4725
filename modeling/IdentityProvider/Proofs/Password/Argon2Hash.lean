import IdentityProvider.Proofs.Password.Argon2Grammar

/-!
# Stored Argon2 hashes are read as they were written

`read_write`: what is written for a derived key of the length that the
parameters ask for is read as the same hash, unless a cost is above its bound;
then that cost is the fault.
-/

namespace IdentityProvider.Password.Argon2Hash

theorem write_eq_line (h : Argon2Hash) : h.write = line (Decimal.ofNat 19)
    (Decimal.ofNat h.params.memory.toNat) (Decimal.ofNat h.params.iterations.toNat)
    (Decimal.ofNat h.params.parallelism.toNat) (Base64.encode .standard h.salt)
    (Base64.encode .standard h.hash) := by
  have hversion : argon2Version.toNat = 19 := rfl
  simp [write, argon2Start, versionField, costFields, costField, line, fields, costsLine,
    start_text, dollar_text, version_text, memory_text, iterations_text, parallelism_text, hversion]

/-- The derived key tells the key length, so it must have the length that the
parameters ask for. -/
theorem read_write {h : Argon2Hash} (hlength : h.hash.length = h.params.keyLength.toNat)
    (hne : h.hash ≠ []) :
    read h.write = match h.params.exceeded? with
      | some c => invalid (.costOutOfRange c)
      | none => .ok h := by
  rw [write_eq_line]
  exact read_line (Decimal.numeral_ofNat _) (Decimal.numeral_ofNat _) (Decimal.numeral_ofNat _)
    (Decimal.numeral_ofNat _) hne hlength.symm

theorem start_write (h : Argon2Hash) : ∃ rest, h.write = argon2Start ++ rest := by
  simp [write, List.append_assoc]

theorem lt_of_mem_costField {c : Argon2Cost} {n : UInt32} {b : UInt8} (hb : b ∈ costField c n) :
    b.toNat < 128 := by
  simp only [costField, List.mem_cons] at hb
  rcases hb with rfl | rfl | hb
  · cases c <;> decide
  · decide
  · exact Decimal.lt_of_mem_ofNat hb

theorem lt_of_mem_costFields {p : Argon2Params} {b : UInt8} (hb : b ∈ costFields p) :
    b.toNat < 128 := by
  simp only [costFields, List.mem_append, List.mem_singleton] at hb
  rcases hb with (((hb | rfl) | hb) | rfl) | hb
  · exact lt_of_mem_costField hb
  · decide
  · exact lt_of_mem_costField hb
  · decide
  · exact lt_of_mem_costField hb

theorem lt_of_mem_versionField {version : UInt32} {b : UInt8} (hb : b ∈ versionField version) :
    b.toNat < 128 := by
  simp only [versionField, List.mem_cons] at hb
  rcases hb with rfl | rfl | hb
  · decide
  · decide
  · exact Decimal.lt_of_mem_ofNat hb

/-- What is written is text. -/
theorem lt_of_mem_write {h : Argon2Hash} {b : UInt8} (hb : b ∈ h.write) : b.toNat < 128 := by
  have hstart : ∀ b ∈ argon2Start, b.toNat < 128 := by decide +kernel
  simp only [write, List.mem_append, List.mem_singleton] at hb
  rcases hb with ((((((hb | hb) | rfl) | hb) | rfl) | hb) | rfl) | hb
  · exact hstart b hb
  · exact lt_of_mem_versionField hb
  · decide
  · exact lt_of_mem_costFields hb
  · decide
  · exact Base64.lt_of_mem_encode hb
  · decide
  · exact Base64.lt_of_mem_encode hb

end IdentityProvider.Password.Argon2Hash
