import IdentityProvider.Password.Config
import IdentityProvider.Proofs.Chain
import IdentityProvider.Proofs.Password.Checking

/-!
# A password matches its hash

`hash_of_validate`: valid parameters give a hash for every password, and the
password matches it, but with bcrypt they may ask for a salt that is too long for
anything to hold, and then nothing is hashed (`hash_endlessSalt`). Hashing itself is
less strict than checking: parameters that were never validated may give a hash with a
cost above its bound, which is not read again (`read_of_hashArgon2`), so that no
password is checked against it (`matchesHash_of_written`).
-/

namespace IdentityProvider

-- ----- Lengths

/-- Every step but the last gives thirty-two bytes, so the fuel is never used up. -/
theorem Argon2.length_longHashFrom {length fuel : Nat} (v : Bytes) (h : length < 32 * fuel) :
    (longHashFrom length v fuel).length = length := by
  induction fuel generalizing length v with
  | zero => omega
  | succ fuel ih =>
    by_cases hshort : length ≤ 64
    · rw [longHashFrom, if_pos hshort, Digest.length_blake2b length v hshort]
    · have hnext := Digest.length_blake2b 64 v (Nat.le_refl 64)
      have hrest := ih (Digest.blake2b 64 v) (show length - 32 < 32 * fuel by omega)
      simp only [longHashFrom, if_neg hshort, List.length_append, List.length_take, hnext, hrest]
      omega

theorem Argon2.length_derive (c : Argon2.Costs) (password salt : Bytes) :
    (derive c password salt).length = c.keyLength :=
  length_longHashFrom _ (by omega)

theorem Bcrypt.length_derive (cost : Nat) (salt password : Bytes) :
    (derive cost salt password).length = 23 := by
  simp [derive, fixedText, Halves.bytes, Bytes.length_ofNat]

namespace Password

/-- What is relied on of the two functions that cost time. -/
structure HashSuite.Sized (suite : HashSuite) : Prop where
  argon2 : ∀ p password salt, (suite.argon2 p password salt).length = p.keyLength.toNat
  bcrypt : ∀ cost salt password, (suite.bcrypt cost salt password).length = 23

theorem HashSuite.sized_standard : HashSuite.standard.Sized where
  argon2 _ _ _ := Argon2.length_derive _ _ _
  bcrypt _ _ _ := Bcrypt.length_derive _ _ _

variable {suite : HashSuite} {params : HashParams} {supply : Supply σ} {s : σ}
  {password salt pepper encoded : Bytes}

-- ----- Argon2

theorem deriveArgon2_eq_ok_iff {p : Argon2Params} {key : Bytes} :
    deriveArgon2 suite p password salt pepper = .ok key ↔
      p.fault? = none ∧ inputFault? password (salt ++ pepper) = none ∧
        key = suite.argon2 p password (salt ++ pepper) := by
  rw [deriveArgon2]
  cases p.fault? <;> cases inputFault? password (salt ++ pepper) <;> simp [eq_comm]

theorem hashArgon2_eq_ok_iff : hashArgon2 suite params password salt pepper = .ok encoded ↔
    ∃ p key, params.argon = some p ∧ deriveArgon2 suite p password salt pepper = .ok key ∧
      encoded = Argon2Hash.write ⟨p, salt, key⟩ := by
  rw [hashArgon2]
  cases params.argon with
  | none => simp
  | some p =>
    cases hkey : deriveArgon2 suite p password salt pepper with
    | error f => simp [hkey]
    | ok key => simp [hkey, eq_comm]

theorem four_le_keyLength {p : Argon2Params} (h : p.fault? = none) : 4 ≤ p.keyLength.toNat := by
  unfold Argon2Params.fault? at h
  repeat' split at h
  all_goals first | omega | cases h

theorem detect_write (h : Argon2Hash) : HashKind.detect h.write = .ok .argon2i := by
  obtain ⟨rest, hrest⟩ := h.start_write
  rw [hrest]
  exact detect_argon2 rest

theorem read_write_of_derive
    (hlength : (suite.argon2 p password (salt ++ pepper)).length = p.keyLength.toNat) {key : Bytes}
    (hkey : deriveArgon2 suite p password salt pepper = .ok key) :
    Argon2Hash.read (Argon2Hash.write ⟨p, salt, key⟩) = match p.exceeded? with
      | some c => Argon2Hash.invalid (.costOutOfRange c)
      | none => .ok ⟨p, salt, key⟩ := by
  obtain ⟨hfault, -, rfl⟩ := deriveArgon2_eq_ok_iff.mp hkey
  have hne : suite.argon2 p password (salt ++ pepper) ≠ [] := by
    have hfour := four_le_keyLength hfault
    rw [← List.length_pos_iff, hlength]
    omega
  exact Argon2Hash.read_write hlength hne

/-- A written hash is checked unless its cost is too high, whoever asks. -/
theorem matchesHash_write (hsuite : suite.Sized) {p : Argon2Params} {key : Bytes}
    (hkey : deriveArgon2 suite p password salt pepper = .ok key) (guess guessPepper : Bytes) :
    matchesHash suite guess (Argon2Hash.write ⟨p, salt, key⟩) guessPepper =
      match p.exceeded? with
      | some c => .error (.invalidHash (.costOutOfRange c))
      | none =>
        match deriveArgon2 suite p guess salt guessPepper with
        | .ok found => .ok (decide (found = key))
        | .error f => .error (.invalidHash (.derivation f)) := by
  have hread := read_write_of_derive (hsuite.argon2 p password (salt ++ pepper)) hkey
  rw [matchesHash_argon2 (detect_write _), matchesArgon2, hread]
  cases p.exceeded? with
  | some c => rfl
  | none => simp only [Bytes.equalInFull_eq_decide]; rfl

/-- A written hash is read with the parameters, the salt and the derived key that
it was made of, as long as no cost is above its bound. The key length is not in the
text, so of Argon2 it is assumed that it derives as many bytes as it is asked for. -/
theorem read_of_hashArgon2
    (hsized : ∀ p password salt, (suite.argon2 p password salt).length = p.keyLength.toNat)
    (h : hashArgon2 suite params password salt pepper = .ok encoded) :
    ∃ p, params.argon = some p ∧
      (p.WithinBounds → Argon2Hash.read encoded =
        .ok ⟨p, salt, suite.argon2 p password (salt ++ pepper)⟩) ∧
      (¬ p.WithinBounds → ∃ c, p.FirstAbove c ∧
        Argon2Hash.read encoded = .error (.invalidHash (.costOutOfRange c))) := by
  obtain ⟨p, key, hp, hkey, rfl⟩ := hashArgon2_eq_ok_iff.mp h
  have hread := read_write_of_derive (hsized p password (salt ++ pepper)) hkey
  obtain ⟨-, -, rfl⟩ := deriveArgon2_eq_ok_iff.mp hkey
  refine ⟨p, hp, fun hbounds => ?_, fun habove => ?_⟩
  · rw [hread, Argon2Params.exceeded?_eq_none_iff.mpr hbounds]
  · rw [← Argon2Params.exceeded?_eq_none_iff] at habove
    obtain ⟨c, hc⟩ := Option.ne_none_iff_exists'.mp habove
    rw [hread, hc]
    exact ⟨c, Argon2Params.exceeded?_eq_some_iff.mp hc, rfl⟩

/-- Nine lanes and a pass too many; the passes come first. -/
def abovePasses : Argon2Params := ⟨72, 13, 9, 32⟩

theorem read_of_hashArgon2_noSalt :
    (∃ encoded, hashArgon2 .standard .default [112, 119] [] (List.replicate 8 115) = .ok encoded ∧
      Argon2Hash.read encoded = .ok ⟨defaultArgon2, [],
        HashSuite.standard.argon2 defaultArgon2 [112, 119] (List.replicate 8 115)⟩) ∧
    ∃ encoded, hashArgon2 .standard { HashParams.default with argon := some abovePasses }
        [112, 119] [] (List.replicate 8 115) = .ok encoded ∧
      Argon2Hash.read encoded = .error (.invalidHash (.costOutOfRange .iterations)) := by
  have hdefault : hashArgon2 .standard .default [112, 119] [] (List.replicate 8 115) = .ok _ :=
    hashArgon2_eq_ok_iff.mpr ⟨_, _, rfl, deriveArgon2_eq_ok_iff.mpr ⟨rfl, by decide, rfl⟩, rfl⟩
  have habove : hashArgon2 .standard { HashParams.default with argon := some abovePasses }
      [112, 119] [] (List.replicate 8 115) = .ok _ :=
    hashArgon2_eq_ok_iff.mpr ⟨_, _, rfl, deriveArgon2_eq_ok_iff.mpr ⟨rfl, by decide, rfl⟩, rfl⟩
  obtain ⟨p, hp, hread, -⟩ := read_of_hashArgon2 HashSuite.sized_standard.argon2 hdefault
  cases hp
  obtain ⟨q, hq, -, hfault⟩ := read_of_hashArgon2 HashSuite.sized_standard.argon2 habove
  cases hq
  obtain ⟨c, hc, herror⟩ := hfault fun hbounds => absurd hbounds.iterations (by decide)
  refine ⟨⟨_, hdefault, hread ⟨by decide, by decide, by decide⟩⟩, _, habove, ?_⟩
  obtain rfl : c = .iterations := by
    rw [← Argon2Params.exceeded?_eq_some_iff] at hc
    exact Option.some.inj (hc.symm.trans (by decide))
  exact herror

-- ----- bcrypt

theorem deriveBcrypt_eq_ok_iff {cost : UInt32} {checksum : Bytes} :
    deriveBcrypt suite cost password salt pepper = .ok checksum ↔
      bcryptCostOk cost ∧ checksum = suite.bcrypt cost salt (peppered password pepper) := by
  rw [deriveBcrypt]
  cases bcryptCostOk cost <;> simp [eq_comm]

theorem hashBcrypt_eq_ok_iff : hashBcrypt suite params password salt pepper = .ok encoded ↔
    ∃ p checksum, params.bcrypt = some p ∧
      deriveBcrypt suite p.cost password salt pepper = .ok checksum ∧
      encoded = Base64.encode .standard (BcryptHash.write ⟨.a, p.cost, salt⟩ checksum) := by
  rw [hashBcrypt]
  cases params.bcrypt with
  | none => simp
  | some p =>
    cases hsum : deriveBcrypt suite p.cost password salt pepper with
    | error f => simp [hsum]
    | ok checksum => simp [hsum, eq_comm]

theorem unwrap?_encode_write (h : BcryptHash) (checksum : Bytes) :
    unwrap? (Base64.encode .standard (h.write checksum)) = some (h.write checksum) := by
  have htext : (h.write checksum).toString?.isSome := by
    rw [Bytes.toString?_of_ascii fun _ => BcryptHash.lt_of_mem_write]
    rfl
  exact unwrap?_eq_some_iff.mpr ⟨rfl, htext, _, rfl⟩

theorem matchesHash_encode_write (hsuite : suite.Sized) {cost : UInt32} {checksum : Bytes}
    (hsalt : salt.length = bcryptSaltSize)
    (hsum : deriveBcrypt suite cost password salt pepper = .ok checksum) :
    matchesHash suite password
      (Base64.encode .standard (BcryptHash.write ⟨.a, cost, salt⟩ checksum)) pepper = .ok true := by
  obtain ⟨hok, rfl⟩ := deriveBcrypt_eq_ok_iff.mp hsum
  have hspells := BcryptHash.spells_write (h := ⟨.a, cost, salt⟩) hsalt
    (hsuite.bcrypt cost salt (peppered password pepper))
  rw [matchesHash_of_bcryptText? (bcryptText?_eq_some_iff.mpr (.inr (unwrap?_encode_write _ _))),
    matchesBcrypt_of_spells hspells, if_pos hok]
  simp

theorem matchesHash_of_hashBcrypt (hsuite : suite.Sized) (hsalt : salt.length = bcryptSaltSize)
    (h : hashBcrypt suite params password salt pepper = .ok encoded) :
    HashKind.detect encoded = .ok .wrappedBcrypt ∧
      matchesHash suite password encoded pepper = .ok true := by
  obtain ⟨p, checksum, -, hsum, rfl⟩ := hashBcrypt_eq_ok_iff.mp h
  exact ⟨detect_wrapped (unwrap?_encode_write _ _), matchesHash_encode_write hsuite hsalt hsum⟩

-- ----- Any parameters

/-- How a hash fares that was written for a password: the password matches it,
or it has a cost above its bound, and then nothing is checked against it. -/
def Fares (suite : HashSuite) (password pepper encoded : Bytes) : Option Argon2Cost → Prop
  | none => matchesHash suite password encoded pepper = .ok true
  | some c => ∀ guess guessPepper,
    matchesHash suite guess encoded guessPepper = .error (.invalidHash (.costOutOfRange c))

/-- The cost above its bound that a new hash has. -/
def HashParams.exceeded? (params : HashParams) : Option Argon2Cost :=
  match params.hashType with
  | .argon2i => params.argon.bind Argon2Params.exceeded?
  | .bcrypt => none

theorem fares_of_hashArgon2 (hsuite : suite.Sized)
    (h : hashArgon2 suite params password salt pepper = .ok encoded) :
    Fares suite password pepper encoded (params.argon.bind Argon2Params.exceeded?) := by
  obtain ⟨p, key, hp, hkey, rfl⟩ := hashArgon2_eq_ok_iff.mp h
  rw [hp, Option.bind_some]
  cases hexceeded : p.exceeded? with
  | some c =>
    intro guess guessPepper
    rw [matchesHash_write hsuite hkey, hexceeded]
  | none =>
    rw [Fares, matchesHash_write hsuite hkey, hexceeded, hkey]
    simp

theorem generateSalt_of_le {ε : Type} {length : Nat} (h : length ≤ maxLength) :
    (generateSalt supply s length : Except (Failure ε) Bytes × σ) =
      (.ok (supply.draw s length).1, (supply.draw s length).2) :=
  if_neg (Nat.not_lt_of_le h)

theorem hash_of_lt (h : maxLength < params.saltLength.toNat) :
    (hash suite params supply s password pepper).1 = .error .capacityOverflow := by
  rw [hash, generateSalt, if_pos h]

theorem hash_argon2i (htype : params.hashType = .argon2i)
    (h : params.saltLength.toNat ≤ maxLength) :
    (hash suite params supply s password pepper).1 = (hashArgon2 suite params password
      (supply.draw s params.saltLength.toNat).1 pepper).mapError .error := by
  rw [hash, generateSalt_of_le h]
  simp only [htype]

/-- The first salt is drawn for nothing. -/
theorem hash_bcrypt (htype : params.hashType = .bcrypt)
    (h : params.saltLength.toNat ≤ maxLength) :
    (hash suite params supply s password pepper).1 = (hashBcrypt suite params password
      (supply.draw (supply.draw s params.saltLength.toNat).2 bcryptSaltSize).1 pepper).mapError
        .error := by
  rw [hash, generateSalt_of_le h]
  simp only [htype]

/-- A new hash is made by the one function or by the other, with a salt that fits. -/
theorem written_of_hash (h : (hash suite params supply s password pepper).1 = .ok encoded) :
    params.hashType = .argon2i ∧
        (∃ salt, hashArgon2 suite params password salt pepper = .ok encoded) ∨
      params.hashType = .bcrypt ∧ ∃ salt : Bytes, salt.length = bcryptSaltSize ∧
        hashBcrypt suite params password salt pepper = .ok encoded := by
  by_cases hroom : params.saltLength.toNat ≤ maxLength
  · cases htype : params.hashType with
    | argon2i =>
      rw [hash_argon2i htype hroom, mapError_eq_ok_iff] at h
      exact .inl ⟨rfl, _, h⟩
    | bcrypt =>
      rw [hash_bcrypt htype hroom, mapError_eq_ok_iff] at h
      exact .inr ⟨rfl, _, supply.length_draw _ _, h⟩
  · rw [hash_of_lt (Nat.lt_of_not_le hroom)] at h
    cases h

theorem matchesHash_of_written (hsuite : suite.Sized) (salt : Bytes) (supply : Supply σ) (s : σ) :
    (hashArgon2 suite params password salt pepper = .ok encoded →
      Fares suite password pepper encoded (params.argon.bind Argon2Params.exceeded?)) ∧
    ((hash suite params supply s password pepper).1 = .ok encoded →
      Fares suite password pepper encoded params.exceeded?) := by
  refine ⟨fares_of_hashArgon2 hsuite, fun h => ?_⟩
  unfold HashParams.exceeded?
  rcases written_of_hash h with ⟨htype, salt, hwritten⟩ | ⟨htype, salt, hsalt, hwritten⟩
  · simp only [htype]
    exact fares_of_hashArgon2 hsuite hwritten
  · simp only [htype]
    exact (matchesHash_of_hashBcrypt hsuite hsalt hwritten).2

/-- Salts of zeros. -/
def zeroSalts : Supply Unit where
  draw _ count := (List.replicate count 0, ())
  length_draw _ _ := List.length_replicate

theorem hash_zeroSalts_argon2i (htype : params.hashType = .argon2i)
    (hroom : params.saltLength.toNat ≤ maxLength)
    (h : hashArgon2 suite params password (List.replicate params.saltLength.toNat 0) pepper =
      .ok encoded) : (hash suite params zeroSalts () password pepper).1 = .ok encoded :=
  (hash_argon2i htype hroom).trans (mapError_eq_ok_iff.mpr h)

theorem hash_zeroSalts_bcrypt (htype : params.hashType = .bcrypt)
    (hroom : params.saltLength.toNat ≤ maxLength)
    (h : hashBcrypt suite params password (List.replicate bcryptSaltSize 0) pepper =
      .ok encoded) : (hash suite params zeroSalts () password pepper).1 = .ok encoded :=
  (hash_bcrypt htype hroom).trans (mapError_eq_ok_iff.mpr h)

theorem matchesHash_of_written_default : ∃ encoded wrapped,
    hashArgon2 .standard .default [112, 119] (List.replicate 16 0) [115] = .ok encoded ∧
      matchesHash .standard [112, 119] encoded [115] = .ok true ∧
      (hash .standard (.withBcrypt 10) zeroSalts () [112, 119] [115]).1 = .ok wrapped ∧
      matchesHash .standard [112, 119] wrapped [115] = .ok true := by
  have hargon : hashArgon2 .standard .default [112, 119] (List.replicate 16 0) [115] = .ok _ :=
    hashArgon2_eq_ok_iff.mpr ⟨_, _, rfl, deriveArgon2_eq_ok_iff.mpr ⟨rfl, by decide, rfl⟩, rfl⟩
  have hbcrypt : hashBcrypt .standard (.withBcrypt 10) [112, 119]
      (List.replicate bcryptSaltSize 0) [115] = .ok _ :=
    hashBcrypt_eq_ok_iff.mpr ⟨_, _, rfl, deriveBcrypt_eq_ok_iff.mpr ⟨by decide, rfl⟩, rfl⟩
  have hwrapped := hash_zeroSalts_bcrypt rfl (by decide) hbcrypt
  exact ⟨_, _, hargon, (matchesHash_of_written HashSuite.sized_standard _ zeroSalts ()).1 hargon,
    hwrapped, (matchesHash_of_written HashSuite.sized_standard [] zeroSalts ()).2 hwrapped⟩

/-- One pass more than a stored hash may ask for. -/
def thirteenPasses : HashParams := { HashParams.default with argon := some ⟨16, 13, 1, 32⟩ }

theorem costOutOfRange_thirteenPasses : ∃ encoded,
    (hash .standard thirteenPasses zeroSalts () [112, 119] [115]).1 = .ok encoded ∧
      matchesHash .standard [112, 119] encoded [115] =
        .error (.invalidHash (.costOutOfRange .iterations)) := by
  have hargon : hashArgon2 .standard thirteenPasses [112, 119]
      (List.replicate thirteenPasses.saltLength.toNat 0) [115] = .ok _ :=
    hashArgon2_eq_ok_iff.mpr ⟨_, _, rfl, deriveArgon2_eq_ok_iff.mpr ⟨rfl, by decide, rfl⟩, rfl⟩
  exact ⟨_, hash_zeroSalts_argon2i rfl (by decide) hargon,
    fares_of_hashArgon2 HashSuite.sized_standard hargon [112, 119] [115]⟩

-- ----- Validated parameters

theorem checkArgon2_eq_ok_iff : checkArgon2 params = .ok () ↔
    ∃ p, params.argon = some p ∧ minSaltLength ≤ params.saltLength ∧ p.fault? = none ∧
      p.exceeded? = none := by
  rw [checkArgon2]
  cases params.argon with
  | none => simp
  | some p =>
    simp only [Option.some.injEq, ← UInt64.not_lt]
    by_cases hsalt : params.saltLength < minSaltLength
    · simp [hsalt]
    · cases hfault : p.fault? <;> cases hexceeded : p.exceeded? <;> simp [hsalt, hfault, hexceeded]

theorem checkBcrypt_eq_ok_iff : checkBcrypt params = .ok () ↔
    ∃ p, params.bcrypt = some p ∧ bcryptCostOk p.cost := by
  rw [checkBcrypt]
  cases params.bcrypt with
  | none => simp
  | some p => simp

/-- The kind of hash that a type of parameters gives. -/
def HashType.kind : HashType → HashKind
  | .argon2i => .argon2i
  | .bcrypt => .wrappedBcrypt

theorem inputFault?_eq_none_iff {salted : Bytes} : inputFault? password salted = none ↔
    password.length < UInt32.size ∧ minSaltedLength ≤ salted.length ∧
      salted.length < UInt32.size := by
  rw [inputFault?]
  constructor
  · intro h
    repeat' split at h
    all_goals first | omega | cases h
  · rintro ⟨hpassword, hshort, hlong⟩
    rw [if_neg (Nat.not_le_of_lt hpassword), if_neg (Nat.not_lt_of_le hshort),
      if_neg (Nat.not_le_of_lt hlong)]

/-- How many bytes of salt go into a new hash. -/
def HashParams.saltSize (params : HashParams) : Nat :=
  match params.hashType with
  | .argon2i => params.saltLength.toNat
  | .bcrypt => bcryptSaltSize

theorem hash_of_checkArgon2 (hsuite : suite.Sized) (hvalid : checkArgon2 params = .ok ())
    (hsalt : salt.length = params.saltLength.toNat) (hpassword : password.length < UInt32.size)
    (hsalted : (salt ++ pepper).length < UInt32.size) :
    ∃ encoded, hashArgon2 suite params password salt pepper = .ok encoded ∧
      HashKind.detect encoded = .ok .argon2i ∧
      matchesHash suite password encoded pepper = .ok true := by
  obtain ⟨p, hp, hmin, hfault, hexceeded⟩ := checkArgon2_eq_ok_iff.mp hvalid
  have hinput : inputFault? password (salt ++ pepper) = none := by
    have hlength : minSaltedLength ≤ params.saltLength.toNat := UInt64.le_iff_toNat_le.mp hmin
    refine inputFault?_eq_none_iff.mpr ⟨hpassword, ?_, hsalted⟩
    rw [List.length_append, hsalt]
    omega
  have hkey : deriveArgon2 suite p password salt pepper = .ok _ :=
    deriveArgon2_eq_ok_iff.mpr ⟨hfault, hinput, rfl⟩
  have hhash : hashArgon2 suite params password salt pepper = .ok _ :=
    hashArgon2_eq_ok_iff.mpr ⟨p, _, hp, hkey, rfl⟩
  have hfares := fares_of_hashArgon2 hsuite hhash
  rw [hp, Option.bind_some, hexceeded] at hfares
  exact ⟨_, hhash, detect_write _, hfares⟩

theorem hash_of_checkBcrypt (hsuite : suite.Sized) (hvalid : checkBcrypt params = .ok ())
    (hsalt : salt.length = bcryptSaltSize) :
    ∃ encoded, hashBcrypt suite params password salt pepper = .ok encoded ∧
      HashKind.detect encoded = .ok .wrappedBcrypt ∧
      matchesHash suite password encoded pepper = .ok true := by
  obtain ⟨p, hp, hok⟩ := checkBcrypt_eq_ok_iff.mp hvalid
  have hsum : deriveBcrypt suite p.cost password salt pepper = .ok _ :=
    deriveBcrypt_eq_ok_iff.mpr ⟨hok, rfl⟩
  have hhash : hashBcrypt suite params password salt pepper = .ok _ :=
    hashBcrypt_eq_ok_iff.mpr ⟨p, _, hp, hsum, rfl⟩
  exact ⟨_, hhash, matchesHash_of_hashBcrypt hsuite hsalt hhash⟩

/-- With valid parameters every password gets a hash that it matches, unless room for a salt is
asked for that there cannot be. Nothing checks for that with bcrypt, which has no use for it. -/
theorem hash_of_validate (hsuite : suite.Sized) (hvalid : params.validate = .ok ())
    (hpassword : password.length < UInt32.size)
    (hsalted : params.saltSize + pepper.length < UInt32.size) (supply : Supply σ) (s : σ) :
    (params.saltLength.toNat ≤ maxLength →
      ∃ encoded, (hash suite params supply s password pepper).1 = .ok encoded ∧
        HashKind.detect encoded = .ok params.hashType.kind ∧
        matchesHash suite password encoded pepper = .ok true) ∧
    (maxLength < params.saltLength.toNat → params.hashType = .bcrypt ∧
      (hash suite params supply s password pepper).1 = .error .capacityOverflow) := by
  unfold HashParams.validate at hvalid
  unfold HashParams.saltSize at hsalted
  cases htype : params.hashType with
  | argon2i =>
    simp only [htype] at hvalid hsalted
    refine ⟨fun hroom => ?_, fun hlong => ?_⟩
    · have hsalt := supply.length_draw s params.saltLength.toNat
      have hjoined : ((supply.draw s params.saltLength.toNat).1 ++ pepper).length <
          UInt32.size := by rwa [List.length_append, hsalt]
      obtain ⟨encoded, hhash, hmatches⟩ :=
        hash_of_checkArgon2 hsuite hvalid hsalt hpassword hjoined
      rw [hash_argon2i htype hroom, hhash]
      exact ⟨encoded, rfl, hmatches⟩
    · -- The salt alone would be longer than Argon2 takes.
      have hsize : UInt32.size ≤ maxLength := by decide
      omega
  | bcrypt =>
    simp only [htype] at hvalid
    refine ⟨fun hroom => ?_, fun hlong => ⟨rfl, hash_of_lt hlong⟩⟩
    obtain ⟨encoded, hhash, hmatches⟩ :=
      hash_of_checkBcrypt hsuite hvalid (supply.length_draw _ bcryptSaltSize)
    rw [hash_bcrypt htype hroom, hhash]
    exact ⟨encoded, rfl, hmatches⟩

/-- The least cost, and the greatest length that a salt can be configured to have. -/
def endlessSalt : HashParams := { HashParams.withBcrypt 4 with saltLength := 0xffffffffffffffff }

theorem hash_of_validate_default :
    HashSuite.standard.Sized ∧ HashParams.default.validate = .ok () ∧
      ∃ encoded, (hash .standard .default zeroSalts () [112, 119] [115]).1 = .ok encoded ∧
        HashKind.detect encoded = .ok .argon2i ∧
        matchesHash .standard [112, 119] encoded [115] = .ok true :=
  ⟨HashSuite.sized_standard, rfl,
    (hash_of_validate HashSuite.sized_standard rfl (by decide) (by decide) zeroSalts ()).1
      (by decide)⟩

theorem hash_endlessSalt : endlessSalt.validate = .ok () ∧
    (hash .standard endlessSalt zeroSalts () [112, 119] [115]).1 = .error .capacityOverflow :=
  ⟨rfl, hash_of_lt (by decide)⟩

end Password

end IdentityProvider
