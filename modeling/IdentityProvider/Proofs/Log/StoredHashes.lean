import IdentityProvider.Proofs.Log.Closure
import IdentityProvider.Proofs.Password.Hashing

/-!
# Stored password hashes in the log

A redacted text has no Argon2 hash in it, wherever one stood. Bcrypt strings are
looked for bare, but stored in a wrapping that has neither a dot nor a dollar sign
in it: between separators a stored one is left as it is
(`Password.redact_of_written`).
-/

namespace IdentityProvider

open SecretPattern

-- ----- Argon2 hashes in a redacted text

/-- What every written Argon2 hash has behind its first dollar sign. -/
def argon2Needle : List Char := ['a', 'r', 'g', 'o', 'n', '2', 'i', '$', 'v']

theorem argon2_found (before : Option Char) (rest : List Char) :
    argon2 before ('$' :: argon2Needle ++ rest) ≠ none := by
  refine argon2_ne_none_iff.mpr ⟨"$argon2i$".toList, by decide, 'v', rfl, rest, ?_⟩
  rfl

namespace Redactor

variable {r : Redactor}

/-- No Argon2 hash begins anywhere in a redacted text. -/
theorem not_infix_redactChars (hr : r.passwordHashes) (cs : List Char) :
    ¬ '$' :: argon2Needle <:+: r.redactChars cs := by
  rintro ⟨front, rest, heq⟩
  rw [List.append_assoc] at heq
  exact argon2_found _ rest (argon2_left hr front _ heq.symm)

/-- What is in base64 has no place for the characters that all secrets have. -/
theorem redact_ascii_encode (bs : Bytes) :
    r.redact (Bytes.ascii (Base64.encode .standard bs)) =
      Bytes.ascii (Base64.encode .standard bs) :=
  redact_eq_self (Base64.not_mem_ascii_encode (by decide +kernel) bs)
    (Base64.not_mem_ascii_encode (by decide +kernel) bs)

end Redactor

namespace Password

variable {suite : HashSuite} {params : HashParams} {supply : Supply σ} {s : σ}
  {password salt pepper encoded : Bytes} {r : Redactor}

-- ----- Argon2

theorem ofString_of_hashArgon2 (h : hashArgon2 suite params password salt pepper = .ok encoded) :
    Bytes.ofString (Bytes.ascii encoded) = encoded := by
  obtain ⟨p, key, -, -, rfl⟩ := hashArgon2_eq_ok_iff.mp h
  exact Bytes.ofString_ascii fun _ => Argon2Hash.lt_of_mem_write

theorem needle_of_hashArgon2 (h : hashArgon2 suite params password salt pepper = .ok encoded) :
    '$' :: argon2Needle <+: (Bytes.ascii encoded).toList := by
  obtain ⟨p, key, -, -, rfl⟩ := hashArgon2_eq_ok_iff.mp h
  obtain ⟨rest, hrest⟩ : ∃ rest, Argon2Hash.write ⟨p, salt, key⟩ = argon2Start ++ 118 :: rest := by
    simp [Argon2Hash.write, Argon2Hash.versionField]
  rw [hrest, Bytes.ascii, String.toList_ofList]
  exact ⟨rest.map fun b => Char.ofNat b.toNat, rfl⟩

theorem not_infix_redact (hr : r.passwordHashes)
    (h : hashArgon2 suite params password salt pepper = .ok encoded) (text : String) :
    ¬ (Bytes.ascii encoded).toList <:+: (r.redact text).toList := by
  intro hleft
  rw [Redactor.toList_redact] at hleft
  exact Redactor.not_infix_redactChars hr _ ((needle_of_hashArgon2 h).isInfix.trans hleft)

-- ----- bcrypt

theorem ofString_of_hashBcrypt (h : hashBcrypt suite params password salt pepper = .ok encoded) :
    Bytes.ofString (Bytes.ascii encoded) = encoded := by
  obtain ⟨p, checksum, -, -, rfl⟩ := hashBcrypt_eq_ok_iff.mp h
  exact Bytes.ofString_ascii fun _ => Base64.lt_of_mem_encode

theorem redact_of_hashBcrypt (h : hashBcrypt suite params password salt pepper = .ok encoded) :
    r.redact (Bytes.ascii encoded) = Bytes.ascii encoded := by
  obtain ⟨p, checksum, -, -, rfl⟩ := hashBcrypt_eq_ok_iff.mp h
  exact Redactor.redact_ascii_encode _

theorem hashBcrypt_withBcrypt {cost : UInt32} (hcost : bcryptCostOk cost) :
    hashBcrypt suite (.withBcrypt cost) password salt pepper = .ok (Base64.encode .standard
      (BcryptHash.write ⟨.a, cost, salt⟩ (suite.bcrypt cost salt (peppered password pepper)))) :=
  hashBcrypt_eq_ok_iff.mpr ⟨_, _, rfl, deriveBcrypt_eq_ok_iff.mpr ⟨hcost, rfl⟩, rfl⟩

-- ----- All hashes

theorem redact_of_written (h : (hash suite params supply s password pepper).1 = .ok encoded) :
    Bytes.ofString (Bytes.ascii encoded) = encoded ∧
      match params.hashType with
      | .argon2i => ∀ r : Redactor, r.passwordHashes → ∀ text,
        ¬ (Bytes.ascii encoded).toList <:+: (r.redact text).toList
      | .bcrypt => ∀ (r : Redactor) (a b : String), Redactor.EndsApart a.toList →
        Redactor.BeginsApart b.toList →
        r.redact (a ++ Bytes.ascii encoded ++ b) = r.redact a ++ Bytes.ascii encoded ++ r.redact b := by
  rcases written_of_hash h with ⟨htype, salt, hwritten⟩ | ⟨htype, salt, -, hwritten⟩
  · simp only [htype]
    exact ⟨ofString_of_hashArgon2 hwritten, fun r hr => not_infix_redact hr hwritten⟩
  · simp only [htype]
    refine ⟨ofString_of_hashBcrypt hwritten, fun r a b ha hb => ?_⟩
    rw [Redactor.redact_between ha hb, redact_of_hashBcrypt hwritten]

theorem redact_of_written_default : ∃ encoded wrapped,
    (hash .standard .default zeroSalts () [112, 119] [115]).1 = .ok encoded ∧
      (∀ text, ¬ (Bytes.ascii encoded).toList <:+: (Redactor.redact {} text).toList) ∧
      (hash .standard (.withBcrypt 10) zeroSalts () [112, 119] [115]).1 = .ok wrapped ∧
      Redactor.redact {} ("stored " ++ Bytes.ascii wrapped ++ " end") =
        Redactor.redact {} "stored " ++ Bytes.ascii wrapped ++ Redactor.redact {} " end" := by
  have hargon : hashArgon2 .standard .default [112, 119]
      (List.replicate HashParams.default.saltLength.toNat 0) [115] = .ok _ :=
    hashArgon2_eq_ok_iff.mpr ⟨_, _, rfl, deriveArgon2_eq_ok_iff.mpr ⟨rfl, by decide, rfl⟩, rfl⟩
  have hhash := hash_zeroSalts_argon2i rfl (by decide) hargon
  have hwrapped : (hash .standard (.withBcrypt 10) zeroSalts () [112, 119] [115]).1 = .ok _ :=
    hash_zeroSalts_bcrypt rfl (by decide) (hashBcrypt_withBcrypt (by decide))
  have hends : Redactor.EndsApart "stored ".toList := by
    rintro c ⟨⟩
    exact separates_space
  have hbegins : Redactor.BeginsApart " end".toList := by
    rintro c ⟨⟩
    exact separates_space
  exact ⟨_, _, hhash, (redact_of_written hhash).2 {} rfl, hwrapped,
    (redact_of_written hwrapped).2 {} _ _ hends hbegins⟩

/-- With nothing around it, this hash is left as it is stored. -/
theorem redact_wrapped : ∃ wrapped,
    (hash .standard (.withBcrypt 4) zeroSalts () [112, 119] [115]).1 = .ok wrapped ∧
      Redactor.redact {} (Bytes.ascii wrapped) = Bytes.ascii wrapped :=
  ⟨_, hash_zeroSalts_bcrypt rfl (by decide) (hashBcrypt_withBcrypt (by decide)),
    Redactor.redact_ascii_encode _⟩

end Password

end IdentityProvider
