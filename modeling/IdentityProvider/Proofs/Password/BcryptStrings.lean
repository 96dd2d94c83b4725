import IdentityProvider.Proofs.Password.Checking

/-!
# Which bcrypt strings are checked, and how

`matchesHash_spellings`: a string is checked as its base64 is, and the letter of
its version is never looked at. `matchesHash_bare_outcome`: the strings that are
checked are those with the parts of a hash, the salt alone decoded (`Checkable`);
a password matches one of them when the rest of it is the text that would be
written.
-/

namespace IdentityProvider.Password

variable {suite : HashSuite} {password pepper encoded : Bytes}

namespace BcryptHash

-- ----- Versions

/-- A version and whatever follows it. -/
def opened (version : BcryptVersion) (rest : Bytes) : Bytes :=
  [dollar] ++ version.tag ++ [dollar] ++ rest

theorem opened_inj {v : BcryptVersion} {rest rest' : Bytes} :
    opened v rest = opened v rest' ↔ rest = rest' := by
  simp [opened]

theorem exists_opened_eq_start (v : BcryptVersion) (rest : Bytes) :
    ∃ more, opened v rest = bcryptStart ++ more :=
  ⟨_, rfl⟩

theorem splitOn_opened (v : BcryptVersion) (rest : Bytes) :
    Bytes.splitOn dollar (opened v rest) = [] :: v.tag :: Bytes.splitOn dollar rest := by
  have hopened : opened v rest = [] ++ dollar :: (v.tag ++ dollar :: rest) := by simp [opened]
  rw [hopened, Bytes.splitOn_append_cons (by simp), Bytes.splitOn_append_cons v.dollar_not_mem_tag]

theorem readFields_tag (v w : BcryptVersion) (cost body : Bytes) :
    readFields v.tag cost body =
      (readFields w.tag cost body).map fun h => { h with version := v } := by
  simp only [readFields, BcryptVersion.ofTag?_eq_some_iff.mpr rfl]
  cases Decimal.uint32? cost with
  | none => rfl
  | some n =>
    by_cases hlength : body.length ≠ bodyLength
    · simp only [if_pos hlength]
      rfl
    · simp only [if_neg hlength]
      cases readSalt (body.take saltTextLength) <;> rfl

/-- Another version gives the same hash but for the version, or the same error. -/
theorem read_opened (v w : BcryptVersion) (rest : Bytes) :
    read (opened v rest) = (read (opened w rest)).map fun h => { h with version := v } := by
  simp only [read, splitOn_opened]
  split
  · rename_i cost body hparts
    simp only [List.cons.injEq, true_and] at hparts
    obtain ⟨rfl, hparts⟩ := hparts
    simp only [hparts]
    exact readFields_tag v w cost body
  · rename_i hparts
    split
    · rename_i cost body hparts'
      simp only [List.cons.injEq, true_and] at hparts'
      exact absurd (congrArg ([] :: v.tag :: ·) hparts'.2) (hparts _ _ _)
    · rfl

theorem version_of_read_opened {v : BcryptVersion} {rest : Bytes} {h : BcryptHash}
    (hread : read (opened v rest) = .ok h) : h.version = v := by
  have hsame := read_opened v v rest
  rw [hread] at hsame
  exact congrArg version (Except.ok.inj hsame)

theorem write_eq_opened (h : BcryptHash) (checksum : Bytes) :
    h.write checksum = opened h.version (twoDigits h.cost.toNat ++ [dollar] ++
      Base64.encode .bcrypt h.salt ++ Base64.encode .bcrypt checksum) := by
  simp [write, opened]

end BcryptHash

/-- The comparison is with a text of the stored version, so the version cancels. -/
theorem matchesBcrypt_opened (v w : BcryptVersion) (rest : Bytes) :
    matchesBcrypt suite password (BcryptHash.opened v rest) pepper =
      matchesBcrypt suite password (BcryptHash.opened w rest) pepper := by
  have hread := BcryptHash.read_opened v w rest
  cases hw : BcryptHash.read (BcryptHash.opened w rest) with
  | error e =>
    rw [hw] at hread
    rw [matchesBcrypt, matchesBcrypt, hread, hw]
    rfl
  | ok h =>
    rw [hw] at hread
    rw [matchesBcrypt, matchesBcrypt, bind_of_ok _ hread, bind_of_ok _ hw]
    have hversion := BcryptHash.version_of_read_opened hw
    simp only [Bytes.equalInFull_eq_decide, BcryptHash.write_eq_opened, hversion,
      BcryptHash.opened_inj]

-- ----- Bare and wrapped

theorem ofString_bcrypt (rest : String) :
    Bytes.ofString ("$2" ++ rest) = bcryptStart ++ Bytes.ofString rest := by
  have hstart : Bytes.ofString "$2" = bcryptStart := by decide
  rw [← hstart]
  simp [Bytes.ofString]

theorem matchesHash_bare (rest : Bytes) :
    matchesHash suite password (bcryptStart ++ rest) pepper =
      matchesBcrypt suite password (bcryptStart ++ rest) pepper :=
  matchesHash_of_bcryptText? (bcryptText?_eq_some_iff.mpr (.inl ⟨rfl, rest, rfl⟩))

theorem matchesHash_wrapped {inner rest : Bytes} (htext : inner.toString?.isSome)
    (hstart : inner = bcryptStart ++ rest) :
    matchesHash suite password (Base64.encode .standard inner) pepper =
      matchesBcrypt suite password inner pepper :=
  matchesHash_of_bcryptText?
    (bcryptText?_eq_some_iff.mpr (.inr (unwrap?_eq_some_iff.mpr ⟨rfl, htext, rest, hstart⟩)))

/-- One hash has many spellings that are checked alike, well-formed or not: in
base64 or bare, and with any version. -/
theorem matchesHash_spellings (suite : HashSuite) (password pepper : Bytes) :
    (∀ rest : String,
      matchesHash suite password (Base64.encode .standard (Bytes.ofString ("$2" ++ rest))) pepper =
        matchesHash suite password (Bytes.ofString ("$2" ++ rest)) pepper) ∧
    ∀ (v w : BcryptVersion) (rest : Bytes),
      matchesHash suite password ([dollar] ++ v.tag ++ [dollar] ++ rest) pepper =
        matchesHash suite password ([dollar] ++ w.tag ++ [dollar] ++ rest) pepper := by
  constructor
  · intro rest
    have htext : (Bytes.ofString ("$2" ++ rest)).toString?.isSome := by
      rw [Bytes.toString?_ofString]
      rfl
    rw [matchesHash_wrapped htext (ofString_bcrypt rest), ofString_bcrypt, matchesHash_bare]
  · intro v w rest
    have hbare (u : BcryptVersion) :
        matchesHash suite password (BcryptHash.opened u rest) pepper =
          matchesBcrypt suite password (BcryptHash.opened u rest) pepper := by
      obtain ⟨more, hmore⟩ := BcryptHash.exists_opened_eq_start u rest
      rw [hmore, matchesHash_bare]
    exact (hbare v).trans ((matchesBcrypt_opened v w rest).trans (hbare w).symm)

-- ----- Bare strings

/-- A string with the parts of a hash: a version, a cost in digits after at most
one plus sign that bcrypt takes, and a body of fifty-three bytes. The first
twenty-two of them are text of their own and decode to a salt; nothing is asked of
the others. -/
structure BcryptHash.Checkable (encoded : Bytes) (version : BcryptVersion) (cost body : Bytes)
    (n : Nat) (salt : Bytes) : Prop where
  eq_fields : encoded = [dollar] ++ version.tag ++ [dollar] ++ cost ++ [dollar] ++ body
  dollar_not_mem : dollar ∉ cost ∧ dollar ∉ body
  numeral : Decimal.Numeral cost n
  bounds : 4 ≤ n ∧ n ≤ 31
  length_body : body.length = 53
  boundary : (Bytes.toString? (body.take 22)).isSome
  decode_salt : Base64.decode .bcrypt (body.take 22) = .ok salt
  length_salt : salt.length = 16

theorem bcryptCostOk_iff {cost : UInt32} :
    bcryptCostOk cost ↔ 4 ≤ cost.toNat ∧ cost.toNat ≤ 31 := by
  simp [bcryptCostOk, UInt32.le_iff_toNat_le]

namespace BcryptHash

variable {version : BcryptVersion} {cost body salt checksum : Bytes} {n : Nat}

theorem Checkable.cost_toNat (h : Checkable encoded version cost body n salt) :
    (UInt32.ofNat n).toNat = n :=
  UInt32.toNat_ofNat_of_lt' (Nat.lt_of_le_of_lt h.bounds.2 (by decide))

theorem Checkable.spells (h : Checkable encoded version cost body n salt) :
    Spells encoded ⟨version, UInt32.ofNat n, salt⟩ cost (body.drop 22) where
  eq_fields := by
    rw [fields, ← Base64.decode_eq_ok_iff.mp h.decode_salt, List.take_append_drop]
    exact h.eq_fields
  uint32?_cost := by
    rw [Decimal.uint32?_eq_some_iff_numeral, h.cost_toNat]
    exact h.numeral
  length_salt := h.length_salt
  length_checksum := by
    rw [List.length_drop, h.length_body]
    rfl
  dollar_not_mem := fun hmem => h.dollar_not_mem.2 (List.mem_of_mem_drop hmem)

theorem Checkable.costOk (h : Checkable encoded version cost body n salt) :
    bcryptCostOk (UInt32.ofNat n) := by
  rw [bcryptCostOk_iff, h.cost_toNat]
  exact h.bounds

theorem Spells.checkable {h : BcryptHash} (hspells : Spells encoded h cost checksum)
    (hok : bcryptCostOk h.cost) :
    Checkable encoded h.version cost (Base64.encode .bcrypt h.salt ++ checksum) h.cost.toNat
      h.salt := by
  have hlength := length_encode_salt hspells.length_salt
  have htake : (Base64.encode .bcrypt h.salt ++ checksum).take 22 = Base64.encode .bcrypt h.salt :=
    List.take_left' hlength
  refine ⟨hspells.eq_fields, ⟨dollar_not_mem_of_uint32? hspells.uint32?_cost,
    hspells.dollar_not_mem_body⟩, Decimal.uint32?_eq_some_iff_numeral.mp hspells.uint32?_cost,
    bcryptCostOk_iff.mp hok, ?_, ?_, ?_, hspells.length_salt⟩
  · rw [List.length_append, hlength, hspells.length_checksum]
    rfl
  · rw [htake, Bytes.toString?_of_ascii fun _ => Base64.lt_of_mem_encode]
    rfl
  · rw [htake, Base64.decode_encode]

theorem drop_body {h : BcryptHash} (hspells : Spells encoded h cost checksum) :
    (Base64.encode .bcrypt h.salt ++ checksum).drop 22 = checksum :=
  List.drop_left' (length_encode_salt hspells.length_salt)

theorem twoDigits_of_lt {n : Nat} (h : n < 100) :
    twoDigits n = [Decimal.digitByte (n / 10), Decimal.digitByte (n % 10)] := by
  unfold twoDigits
  split
  · rename_i hsmall
    have htens : n / 10 = 0 := by omega
    have hunits : n % 10 = n := by omega
    rw [Decimal.ofNat_of_lt hsmall, htens, hunits]
    rfl
  · rename_i hlarge
    rw [Decimal.ofNat_step (Nat.le_of_not_lt hlarge), Decimal.ofNat_of_lt (by omega)]
    rfl

end BcryptHash

/-- A bare string is checked when it has the parts of a hash. The password matches
it if beside that its cost has two digits and the rest of the body is the checksum
that bcrypt, any function, gives for the peppered password. -/
theorem matchesHash_bare_outcome (suite : HashSuite) (password pepper rest : Bytes) :
    ((∃ b, matchesHash suite password (bcryptStart ++ rest) pepper = .ok b) ↔
      ∃ version cost body n salt,
        BcryptHash.Checkable (bcryptStart ++ rest) version cost body n salt) ∧
    (matchesHash suite password (bcryptStart ++ rest) pepper = .ok true ↔
      ∃ version cost body n salt,
        BcryptHash.Checkable (bcryptStart ++ rest) version cost body n salt ∧
        cost = [Decimal.digitByte (n / 10), Decimal.digitByte (n % 10)] ∧
        body.drop 22 = Base64.encode .bcrypt
          (suite.bcrypt (UInt32.ofNat n) salt (Digest.hmacSha256 pepper password))) := by
  rw [matchesHash_bare]
  refine ⟨⟨?_, ?_⟩, ?_, ?_⟩
  · rintro ⟨b, hcheck⟩
    obtain ⟨stored, cost, checksum, hspells, hok⟩ := spells_of_matchesBcrypt hcheck
    exact ⟨_, _, _, _, _, hspells.checkable hok⟩
  · rintro ⟨version, cost, body, n, salt, h⟩
    rw [matchesBcrypt_of_spells h.spells, if_pos h.costOk]
    exact ⟨_, rfl⟩
  · intro hcheck
    obtain ⟨stored, cost, checksum, hspells, hok⟩ := spells_of_matchesBcrypt hcheck
    rw [matchesBcrypt_of_spells hspells, if_pos hok, Except.ok.injEq, decide_eq_true_iff] at hcheck
    obtain ⟨hcost, hchecksum⟩ := hcheck
    have hmost := (bcryptCostOk_iff.mp hok).2
    refine ⟨_, _, _, _, _, hspells.checkable hok, ?_, ?_⟩
    · rw [hcost, BcryptHash.twoDigits_of_lt (by omega)]
    · rw [BcryptHash.drop_body hspells, UInt32.ofNat_toNat]
      exact hchecksum
  · rintro ⟨version, cost, body, n, salt, h, hcost, hchecksum⟩
    have hmost := h.bounds.2
    rw [matchesBcrypt_of_spells h.spells, if_pos h.costOk, Except.ok.injEq, decide_eq_true_iff,
      h.cost_toNat, BcryptHash.twoDigits_of_lt (by omega)]
    exact ⟨hcost, hchecksum⟩

end IdentityProvider.Password
