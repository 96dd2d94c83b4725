import IdentityProvider.Password.BcryptHash
import IdentityProvider.Proofs.Base64
import IdentityProvider.Proofs.Chain
import IdentityProvider.Proofs.Cutting
import IdentityProvider.Proofs.Decimal

/-!
# Which texts are read as bcrypt hashes

`read_eq_ok_iff`: any number is taken for the cost, and after the salt any
thirty-one bytes without a dollar sign are taken for the checksum. So a hash has
many spellings that are read; it is written in one of them (`spells_write`).
-/

namespace IdentityProvider.Password

theorem BcryptVersion.ofTag?_eq_some_iff {tag : Bytes} {v : BcryptVersion} :
    ofTag? tag = some v ↔ tag = v.tag := by
  constructor
  · intro h
    have htag := List.find?_some h
    simpa [eq_comm] using htag
  · rintro rfl
    cases v <;> rfl

theorem BcryptVersion.dollar_not_mem_tag (v : BcryptVersion) : dollar ∉ v.tag := by
  cases v <;> decide

namespace BcryptHash

-- ----- Fields

/-- A version, a cost and a body, as they stand in a text. -/
def fields (version : BcryptVersion) (cost body : Bytes) : Bytes :=
  [dollar] ++ version.tag ++ [dollar] ++ cost ++ [dollar] ++ body

theorem splitOn_eq_fields_iff {v : BcryptVersion} {encoded cost body : Bytes} :
    Bytes.splitOn dollar encoded = [[], v.tag, cost, body] ↔
      encoded = fields v cost body ∧ dollar ∉ cost ∧ dollar ∉ body := by
  simp [Bytes.splitOn_eq_iff, List.intercalate_cons_cons, List.intercalate_singleton, fields,
    v.dollar_not_mem_tag]

theorem fields_inj {v : BcryptVersion} {cost cost' body body' : Bytes}
    (hcost : dollar ∉ cost) (hbody : dollar ∉ body) (hcost' : dollar ∉ cost')
    (hbody' : dollar ∉ body') :
    fields v cost body = fields v cost' body' ↔ cost = cost' ∧ body = body' := by
  have hsplit : Bytes.splitOn dollar (fields v cost body) = [[], v.tag, cost, body] :=
    splitOn_eq_fields_iff.mpr ⟨rfl, hcost, hbody⟩
  have hsplit' : Bytes.splitOn dollar (fields v cost' body') = [[], v.tag, cost', body'] :=
    splitOn_eq_fields_iff.mpr ⟨rfl, hcost', hbody'⟩
  constructor
  · intro h
    rw [h, hsplit'] at hsplit
    simpa [eq_comm] using hsplit
  · rintro ⟨rfl, rfl⟩
    rfl

theorem dollar_not_mem_of_uint32? {cost : Bytes} {n : UInt32}
    (h : Decimal.uint32? cost = some n) : dollar ∉ cost :=
  Decimal.not_mem_of_unsigned? (Decimal.uint32?_eq_some_iff.mp h) (by decide) (by decide)

theorem uint32?_twoDigits (n : UInt32) : Decimal.uint32? (twoDigits n.toNat) = some n := by
  by_cases h : n.toNat < 10
  · rw [Decimal.uint32?_eq_some_iff, twoDigits, if_pos h]
    exact Decimal.unsigned?_of_digits? (by simp) (Decimal.digits?_ofNat n.toNat)
  · rw [twoDigits, if_neg h, Decimal.uint32?_ofNat]

theorem dollar_not_mem_twoDigits (n : UInt32) : dollar ∉ twoDigits n.toNat :=
  dollar_not_mem_of_uint32? (uint32?_twoDigits n)

theorem length_encode_salt {salt : Bytes} (h : salt.length = bcryptSaltSize) :
    (Base64.encode .bcrypt salt).length = saltTextLength := by
  rw [Base64.length_encode, h]
  rfl

theorem readSalt_eq_ok_iff {text salt : Bytes} :
    readSalt text = .ok salt ↔
      text = Base64.encode .bcrypt salt ∧ salt.length = bcryptSaltSize := by
  constructor
  · intro h
    unfold readSalt at h
    split at h
    · rename_i found hfound
      split at h
      · rename_i hlength
        cases h
        exact ⟨Base64.decode_eq_ok_iff.mp hfound, hlength⟩
      · cases h
    · cases h
  · rintro ⟨rfl, hlength⟩
    simp only [readSalt, Base64.decode_encode, hlength, if_true]

theorem readFields_eq_ok_iff {version cost body : Bytes} {h : BcryptHash} :
    readFields version cost body = .ok h ↔
      version = h.version.tag ∧ Decimal.uint32? cost = some h.cost ∧
        body.length = bodyLength ∧ readSalt (body.take saltTextLength) = .ok h.salt := by
  constructor
  · intro hread
    unfold readFields at hread
    split at hread
    · rename_i v hv
      split at hread
      · rename_i n hn
        split at hread
        · cases hread
        · rename_i hlength
          obtain ⟨salt, hsalt, hread⟩ := bind_eq_ok_iff.mp hread
          cases hread
          exact ⟨BcryptVersion.ofTag?_eq_some_iff.mp hv, hn, Decidable.not_not.mp hlength, hsalt⟩
      · cases hread
    · cases hread
  · rintro ⟨hversion, hcost, hlength, hsalt⟩
    simp only [readFields, BcryptVersion.ofTag?_eq_some_iff.mpr hversion, hcost]
    rw [if_neg (not_not_intro hlength), bind_of_ok _ hsalt]

-- ----- Whole texts

/-- What a text holds that is read as a hash. The thirty-one bytes after the salt
need not be a checksum, and the cost may be any spelling of the number. -/
structure Spells (encoded : Bytes) (h : BcryptHash) (cost checksum : Bytes) : Prop where
  eq_fields : encoded = fields h.version cost (Base64.encode .bcrypt h.salt ++ checksum)
  uint32?_cost : Decimal.uint32? cost = some h.cost
  length_salt : h.salt.length = bcryptSaltSize
  length_checksum : checksum.length = bodyLength - saltTextLength
  dollar_not_mem : dollar ∉ checksum

variable {encoded cost checksum : Bytes} {h : BcryptHash}

theorem Spells.dollar_not_mem_body (hspells : Spells encoded h cost checksum) :
    dollar ∉ Base64.encode .bcrypt h.salt ++ checksum := by
  rw [List.mem_append, not_or]
  exact ⟨Base64.dollar_not_mem_encode _ _, hspells.dollar_not_mem⟩

theorem Spells.splitOn (hspells : Spells encoded h cost checksum) :
    Bytes.splitOn dollar encoded =
      [[], h.version.tag, cost, Base64.encode .bcrypt h.salt ++ checksum] :=
  splitOn_eq_fields_iff.mpr ⟨hspells.eq_fields, dollar_not_mem_of_uint32? hspells.uint32?_cost,
    hspells.dollar_not_mem_body⟩

theorem read_eq_ok_iff :
    read encoded = .ok h ↔ ∃ cost checksum, Spells encoded h cost checksum := by
  constructor
  · intro hread
    unfold read at hread
    split at hread
    · rename_i version cost body hsplit
      obtain ⟨rfl, hcost, hlength, hsalt⟩ := readFields_eq_ok_iff.mp hread
      obtain ⟨heq, -, hbody⟩ := splitOn_eq_fields_iff.mp hsplit
      obtain ⟨htext, hsize⟩ := readSalt_eq_ok_iff.mp hsalt
      refine ⟨cost, body.drop saltTextLength, ?_, hcost, hsize, ?_, ?_⟩
      · rw [heq, ← htext, List.take_append_drop]
      · rw [List.length_drop, hlength]
      · exact fun hmem => hbody (List.mem_of_mem_drop hmem)
    · cases hread
  · rintro ⟨cost, checksum, hspells⟩
    have hsalt := length_encode_salt hspells.length_salt
    simp only [read, hspells.splitOn]
    refine readFields_eq_ok_iff.mpr ⟨rfl, hspells.uint32?_cost, ?_, ?_⟩
    · rw [List.length_append, hsalt, hspells.length_checksum]
      rfl
    · rw [List.take_left' hsalt]
      exact readSalt_eq_ok_iff.mpr ⟨rfl, hspells.length_salt⟩

-- ----- What is written

theorem write_eq_fields (h : BcryptHash) (derived : Bytes) :
    h.write derived = fields h.version (twoDigits h.cost.toNat)
      (Base64.encode .bcrypt h.salt ++ Base64.encode .bcrypt derived) := by
  simp [write, fields]

theorem spells_write {h : BcryptHash} {derived : Bytes} (hsalt : h.salt.length = bcryptSaltSize)
    (hderived : derived.length = 23) :
    Spells (h.write derived) h (twoDigits h.cost.toNat) (Base64.encode .bcrypt derived) where
  eq_fields := write_eq_fields h derived
  uint32?_cost := uint32?_twoDigits h.cost
  length_salt := hsalt
  length_checksum := by
    rw [Base64.length_encode, hderived]
    rfl
  dollar_not_mem := Base64.dollar_not_mem_encode _ _

theorem Spells.write_eq_iff (hspells : Spells encoded h cost checksum) {derived : Bytes} :
    h.write derived = encoded ↔
      cost = twoDigits h.cost.toNat ∧ checksum = Base64.encode .bcrypt derived := by
  have hbody : dollar ∉ Base64.encode .bcrypt h.salt ++ Base64.encode .bcrypt derived := by
    simp [Base64.dollar_not_mem_encode, dollar]
  rw [write_eq_fields, hspells.eq_fields, fields_inj (dollar_not_mem_twoDigits _) hbody
    (dollar_not_mem_of_uint32? hspells.uint32?_cost) hspells.dollar_not_mem_body,
    List.append_cancel_left_eq]
  exact and_congr eq_comm eq_comm

/-- What is written is text. -/
theorem lt_of_mem_write {derived : Bytes} {b : UInt8} (hb : b ∈ h.write derived) :
    b.toNat < 128 := by
  have htag : ∀ b ∈ h.version.tag, b.toNat < 128 := by cases h.version <;> decide +kernel
  have hcost := Decimal.uint32?_eq_some_iff.mp (uint32?_twoDigits h.cost)
  simp only [write, List.mem_append, List.mem_singleton] at hb
  rcases hb with (((((rfl | hb) | rfl) | hb) | rfl) | hb) | hb
  · decide
  · exact htag b hb
  · decide
  · exact Decimal.lt_of_mem_unsigned? hcost hb
  · decide
  · exact Base64.lt_of_mem_encode hb
  · exact Base64.lt_of_mem_encode hb

-- ----- Well-formed texts

/-- The form of a bcrypt hash: a cost of two digits that bcrypt can take, and a
body of symbols only. -/
def WellFormed (encoded : Bytes) : Prop :=
  ∃ (version : BcryptVersion) (cost : UInt32) (body : Bytes),
    encoded = fields version (twoDigits cost.toNat) body ∧ bcryptCostOk cost ∧
      body.length = bodyLength ∧ ∀ b ∈ body, b ∈ Base64.Alphabet.bcrypt.symbols

theorem Spells.wellFormed_iff (hspells : Spells encoded h cost checksum) :
    WellFormed encoded ↔
      bcryptCostOk h.cost ∧ cost = twoDigits h.cost.toNat ∧
        ∀ b ∈ checksum, b ∈ Base64.Alphabet.bcrypt.symbols := by
  constructor
  · rintro ⟨version, n, body, heq, hok, -, hsymbols⟩
    have hbody : dollar ∉ body := fun hmem => absurd (hsymbols _ hmem) (by decide)
    have hsplit := splitOn_eq_fields_iff.mpr ⟨heq, dollar_not_mem_twoDigits n, hbody⟩
    simp only [hspells.splitOn, List.cons.injEq, and_true, true_and] at hsplit
    obtain ⟨-, rfl, rfl⟩ := hsplit
    obtain rfl : n = h.cost :=
      Option.some.inj ((uint32?_twoDigits n).symm.trans hspells.uint32?_cost)
    exact ⟨hok, rfl, fun b hb => hsymbols b (List.mem_append_right _ hb)⟩
  · rintro ⟨hok, hcost, hsymbols⟩
    refine ⟨h.version, h.cost, _, hcost ▸ hspells.eq_fields, hok, ?_, ?_⟩
    · rw [List.length_append, length_encode_salt hspells.length_salt, hspells.length_checksum]
      rfl
    · intro b hb
      rcases List.mem_append.mp hb with hb | hb
      · exact Base64.mem_symbols_of_mem_encode hb
      · exact hsymbols b hb

end BcryptHash

end IdentityProvider.Password
