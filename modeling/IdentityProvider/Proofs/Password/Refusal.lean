import IdentityProvider.Proofs.Password.Argon2Grammar
import IdentityProvider.Proofs.Password.Checking

/-!
# Stored hashes that no password is checked against

`Refused` says what is wrong with a stored hash that cannot be checked, and does
not name the password: `matchesHash_eq_error_iff`. So two checks of one hash
fail alike, or neither fails (`matchesHash_refuses_alike`), and what Argon2 and
bcrypt have against the numbers in a hash is held against the hash.
-/

namespace IdentityProvider.Password

variable {suite : HashSuite} {password other salt encoded pepper : Bytes}

-- ----- Argon2

/-- What Argon2 has against a salt. -/
def saltFault? (salted : Bytes) : Option Argon2Fault :=
  if salted.length < minSaltedLength then some .saltTooShort
  else if UInt32.size ≤ salted.length then some .saltTooLong
  else none

theorem inputFault?_of_lt (h : password.length < UInt32.size) (salted : Bytes) :
    inputFault? password salted = saltFault? salted :=
  if_neg (Nat.not_le_of_lt h)

theorem deriveArgon2_eq_error_iff {p : Argon2Params} {f : DerivationFault}
    (h : password.length < UInt32.size) :
    deriveArgon2 suite p password salt pepper = .error f ↔
      ∃ a, p.fault?.or (saltFault? (salt ++ pepper)) = some a ∧ f = .argon2 a := by
  rw [deriveArgon2, inputFault?_of_lt h]
  cases p.fault?.or (saltFault? (salt ++ pepper)) <;> simp [eq_comm]

/-- Why an Argon2 hash cannot be checked: it is not read, or Argon2 takes its
parameters or its salt for none. -/
inductive Argon2Hash.Refused (encoded pepper : Bytes) : CryptoError → Prop
  | unread (h : read encoded = .error e) : Refused encoded pepper e
  | underivable (hread : read encoded = .ok stored)
      (hfault : stored.params.fault?.or (saltFault? (stored.salt ++ pepper)) = some f) :
    Refused encoded pepper (.invalidHash (.derivation (.argon2 f)))

theorem matchesArgon2_eq_error_iff (h : password.length < UInt32.size) :
    matchesArgon2 suite password encoded pepper = .error e ↔
      Argon2Hash.Refused encoded pepper e := by
  constructor
  · intro hcheck
    rcases bind_eq_error_iff.mp hcheck with hread | ⟨stored, hread, hderive⟩
    · exact .unread hread
    · split at hderive
      · cases hderive
      · rename_i hfault
        obtain ⟨a, ha, rfl⟩ := (deriveArgon2_eq_error_iff h).mp hfault
        cases hderive
        exact .underivable hread ha
  · rintro (hread | ⟨hread, hfault⟩)
    · exact bind_eq_error_iff.mpr (.inl hread)
    · rw [matchesArgon2, bind_of_ok _ hread, (deriveArgon2_eq_error_iff h).mpr ⟨_, hfault, rfl⟩]

theorem Argon2Hash.Refused.malformed_or_otherVersion (h : Argon2Hash.Refused encoded pepper e) :
    Malformed e ∨ ∃ found, e = .incompatibleArgonVersion found argon2Version := by
  cases h with
  | unread h =>
    rcases read_eq_error h with ⟨found, -, rfl⟩ | hinvalid
    · exact .inr ⟨found, rfl⟩
    · exact .inl hinvalid
  | underivable => exact .inl ⟨_, rfl⟩

-- ----- bcrypt

/-- Why a bcrypt string cannot be checked: it is not read, or bcrypt does not
take its cost. -/
inductive BcryptHash.Refused (encoded : Bytes) : CryptoError → Prop
  | unread (h : read encoded = .error e) : Refused encoded e
  | cost (hread : read encoded = .ok stored) (hcost : ¬ bcryptCostOk stored.cost) :
    Refused encoded (.invalidHash (.bcryptCost stored.cost))

theorem matchesBcrypt_eq_error_iff :
    matchesBcrypt suite password encoded pepper = .error e ↔ BcryptHash.Refused encoded e := by
  constructor
  · intro hcheck
    rcases bind_eq_error_iff.mp hcheck with hread | ⟨stored, hread, hderive⟩
    · exact .unread hread
    · by_cases hok : bcryptCostOk stored.cost
      · rw [deriveBcrypt, if_pos hok] at hderive
        cases hderive
      · rw [deriveBcrypt, if_neg hok] at hderive
        cases hderive
        exact .cost hread hok
  · rintro (hread | ⟨hread, hcost⟩)
    · exact bind_eq_error_iff.mpr (.inl hread)
    · rw [matchesBcrypt, bind_of_ok _ hread, deriveBcrypt, if_neg hcost]

namespace BcryptHash

theorem malformed_of_readSalt {text : Bytes} (h : readSalt text = .error e) :
    Argon2Hash.Malformed e := by
  unfold readSalt at h
  split at h
  · split at h
    · cases h
    · cases h
      exact ⟨_, rfl⟩
  · cases h
    exact ⟨_, rfl⟩

theorem malformed_of_readFields {version cost body : Bytes}
    (h : readFields version cost body = .error e) : Argon2Hash.Malformed e := by
  unfold readFields at h
  split at h
  · split at h
    · simp only [invalid, refuse_eq_error_iff, bind_eq_error_iff] at h
      rcases h with ⟨-, rfl⟩ | ⟨-, h | ⟨salt, -, h⟩⟩
      · exact ⟨_, rfl⟩
      · exact malformed_of_readSalt h
      · cases h
    · cases h
      exact ⟨_, rfl⟩
  · cases h
    exact ⟨_, rfl⟩

theorem Refused.malformed (h : Refused encoded e) : Argon2Hash.Malformed e := by
  cases h with
  | unread h =>
    unfold read at h
    split at h
    · exact malformed_of_readFields h
    · cases h
      exact ⟨_, rfl⟩
  | cost => exact ⟨_, rfl⟩

end BcryptHash

-- ----- Any hash

/-- Why a stored hash cannot be checked, whatever the password. -/
inductive Refused (encoded pepper : Bytes) : CryptoError → Prop
  | kind (h : HashKind.detect encoded = .error e) : Refused encoded pepper e
  | argon2 (hkind : HashKind.detect encoded = .ok .argon2i)
      (h : Argon2Hash.Refused encoded pepper e) : Refused encoded pepper e
  | bcrypt {inner : Bytes} (htext : bcryptText? encoded = some inner)
      (h : BcryptHash.Refused inner e) : Refused encoded pepper e

theorem not_detect_error_of_bcryptText? {inner : Bytes} (h : bcryptText? encoded = some inner) :
    HashKind.detect encoded ≠ .error e := by
  intro hkind
  rcases detect_of_bcryptText? h with ⟨hok, -⟩ | ⟨hok, -⟩ <;> cases hok.symm.trans hkind

theorem matchesHash_eq_error_iff (h : password.length < UInt32.size) :
    matchesHash suite password encoded pepper = .error e ↔ Refused encoded pepper e := by
  cases htext : bcryptText? encoded with
  | some inner =>
    rw [matchesHash_of_bcryptText? htext, matchesBcrypt_eq_error_iff]
    constructor
    · exact .bcrypt htext
    · rintro (hkind | ⟨hkind, -⟩ | ⟨htext', hrefused⟩)
      · exact absurd hkind (not_detect_error_of_bcryptText? htext)
      · cases htext.symm.trans (bcryptText?_of_detect hkind)
      · obtain rfl := Option.some.inj (htext.symm.trans htext')
        exact hrefused
  | none =>
    constructor
    · intro hcheck
      rcases bind_eq_error_iff.mp hcheck with hkind | ⟨kind, hkind, hcheck⟩
      · exact .kind hkind
      · obtain rfl := kind_of_bcryptText?_eq_none htext hkind
        exact .argon2 hkind ((matchesArgon2_eq_error_iff h).mp hcheck)
    · rintro (hkind | ⟨hkind, hrefused⟩ | ⟨htext', -⟩)
      · exact bind_eq_error_iff.mpr (.inl hkind)
      · rw [matchesHash_argon2 hkind]
        exact (matchesArgon2_eq_error_iff h).mpr hrefused
      · cases htext.symm.trans htext'

theorem unknown_of_detect (h : HashKind.detect encoded = .error e) :
    ∃ name, e = .unknownPasswordHashType name := by
  unfold HashKind.detect at h
  repeat' split at h
  all_goals cases h
  exact ⟨_, rfl⟩

/-- Once its kind is told, a hash is only refused for what stands in it. -/
theorem Refused.of_detect {kind : HashKind} (h : Refused encoded pepper e)
    (hdetect : HashKind.detect encoded = .ok kind) :
    Argon2Hash.Malformed e ∨
      kind = .argon2i ∧ ∃ found, e = .incompatibleArgonVersion found argon2Version := by
  cases h with
  | kind h => cases hdetect.symm.trans h
  | argon2 hkind h =>
    cases hdetect.symm.trans hkind
    exact h.malformed_or_otherVersion.imp_right fun hversion => ⟨rfl, hversion⟩
  | bcrypt htext h => exact .inl h.malformed

/-- A check fails, and why, for what is stored: whoever asks with another password
gets the same error or none either. An unknown hash is told apart from one that is
invalid or, with Argon2, of another version; that a key could not be derived is
never the error. -/
theorem matchesHash_refuses_alike (hpassword : password.length < UInt32.size)
    (hother : other.length < UInt32.size) :
    (∀ e, matchesHash suite password encoded pepper = .error e ↔
      matchesHash suite other encoded pepper = .error e) ∧
    ((∃ name, matchesHash suite password encoded pepper =
      .error (.unknownPasswordHashType name)) ↔ ∃ e, HashKind.detect encoded = .error e) ∧
    ∀ kind, HashKind.detect encoded = .ok kind →
      ∀ e, matchesHash suite password encoded pepper = .error e →
        (∃ fault, e = .invalidHash fault) ∨
          kind = .argon2i ∧ ∃ found, e = .incompatibleArgonVersion found 19 := by
  simp only [matchesHash_eq_error_iff hpassword]
  refine ⟨fun e => (matchesHash_eq_error_iff hother).symm, ⟨?_, ?_⟩,
    fun kind hkind e h => h.of_detect hkind⟩
  · rintro ⟨name, h⟩
    cases hdetect : HashKind.detect encoded with
    | error e => exact ⟨e, rfl⟩
    | ok kind =>
      rcases h.of_detect hdetect with ⟨fault, hfault⟩ | ⟨-, found, hfound⟩
      · cases hfault
      · cases hfound
  · rintro ⟨e, hdetect⟩
    obtain ⟨name, rfl⟩ := unknown_of_detect hdetect
    exact ⟨name, .kind hdetect⟩

/-- A hash that asks for no passes. -/
def noPasses : Argon2Hash := ⟨⟨16, 0, 1, 4⟩, List.replicate 8 0, [1, 2, 3, 4]⟩

theorem refused_noPasses (pepper : Bytes) :
    Refused noPasses.write pepper (.invalidHash (.derivation (.argon2 .timeTooSmall))) := by
  have hread : Argon2Hash.read noPasses.write = .ok noPasses :=
    Argon2Hash.read_write rfl (by decide)
  obtain ⟨rest, hrest⟩ := noPasses.start_write
  have hkind : HashKind.detect noPasses.write = .ok .argon2i := by
    rw [hrest]
    exact detect_argon2 rest
  exact .argon2 hkind (.underivable hread rfl)

theorem matchesHash_refuses_alike_noPasses :
    ([112, 119] : Bytes).length < UInt32.size ∧ ([111] : Bytes).length < UInt32.size ∧
      matchesHash .standard [112, 119] noPasses.write [115] =
        .error (.invalidHash (.derivation (.argon2 .timeTooSmall))) ∧
      matchesHash .standard [111] noPasses.write [115] =
        .error (.invalidHash (.derivation (.argon2 .timeTooSmall))) := by
  have hpassword : ([112, 119] : Bytes).length < UInt32.size := by decide
  have hother : ([111] : Bytes).length < UInt32.size := by decide
  have hrefused : matchesHash .standard [112, 119] noPasses.write [115] =
      .error (.invalidHash (.derivation (.argon2 .timeTooSmall))) :=
    (matchesHash_eq_error_iff hpassword).mpr (refused_noPasses [115])
  exact ⟨hpassword, hother, hrefused,
    ((matchesHash_refuses_alike hpassword hother).1 _).mp hrefused⟩

end IdentityProvider.Password
