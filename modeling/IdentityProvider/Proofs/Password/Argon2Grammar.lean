import IdentityProvider.Password.Argon2Hash
import IdentityProvider.Proofs.Base64
import IdentityProvider.Proofs.Chain
import IdentityProvider.Proofs.Cutting
import IdentityProvider.Proofs.Decimal

/-!
# Which texts are read as Argon2 hashes

`read_outcome`: the texts that are read are the lines of one grammar (`Spells`).
Numbers may have a plus sign and leading zeros, so a hash has many lines; the
salt and the derived key have one spelling each. A text of six fields with the
right tag and some other version is told from all other texts, which are invalid.
-/

namespace IdentityProvider.Password

-- ----- Bounds of costs

/-- No cost is above its bound. -/
structure Argon2Params.WithinBounds (p : Argon2Params) : Prop where
  memory : p.memory.toNat ≤ 131072
  iterations : p.iterations.toNat ≤ 12
  parallelism : p.parallelism.toNat ≤ 8

/-- The first cost that is above its bound. -/
inductive Argon2Params.FirstAbove (p : Argon2Params) : Argon2Cost → Prop
  | memory (h : 131072 < p.memory.toNat) : FirstAbove p .memory
  | iterations (hmemory : p.memory.toNat ≤ 131072) (h : 12 < p.iterations.toNat) :
    FirstAbove p .iterations
  | parallelism (hmemory : p.memory.toNat ≤ 131072) (hiterations : p.iterations.toNat ≤ 12)
      (h : 8 < p.parallelism.toNat) : FirstAbove p .parallelism

theorem Argon2Params.exceeded?_eq_some_iff {p : Argon2Params} {c : Argon2Cost} :
    p.exceeded? = some c ↔ p.FirstAbove c := by
  have hmemory : maxMemory.toNat = 131072 := by decide
  have hiterations : maxIterations.toNat = 12 := by decide
  have hparallelism : maxParallelism.toNat = 8 := by decide
  simp only [exceeded?, UInt32.lt_iff_toNat_lt, hmemory, hiterations, hparallelism]
  constructor
  · intro h
    split at h
    · cases h
      exact .memory ‹_›
    split at h
    · cases h
      exact .iterations (by omega) ‹_›
    split at h
    · cases h
      exact .parallelism (by omega) (by omega) ‹_›
    · cases h
  · rintro (h | ⟨hm, h⟩ | ⟨hm, ht, h⟩)
    · rw [if_pos h]
    · rw [if_neg (by omega), if_pos h]
    · rw [if_neg (by omega), if_neg (by omega), if_pos h]

theorem Argon2Params.exceeded?_eq_none_iff {p : Argon2Params} :
    p.exceeded? = none ↔ p.WithinBounds := by
  simp only [Option.eq_none_iff_forall_ne_some, ne_eq, exceeded?_eq_some_iff]
  constructor
  · intro h
    have hmemory : p.memory.toNat ≤ 131072 := Nat.le_of_not_lt fun habove => h _ (.memory habove)
    have hiterations : p.iterations.toNat ≤ 12 :=
      Nat.le_of_not_lt fun habove => h _ (.iterations hmemory habove)
    exact ⟨hmemory, hiterations,
      Nat.le_of_not_lt fun habove => h _ (.parallelism hmemory hiterations habove)⟩
  · rintro ⟨hmemory, hiterations, hparallelism⟩ c (h | ⟨-, h⟩ | ⟨-, -, h⟩) <;> omega

namespace Argon2Hash

open Decimal (Numeral)

-- ----- Lines

/-- Six fields, the first of them empty and the second the tag. -/
def fields (version costs salt hash : Bytes) : Bytes :=
  Bytes.ofString "$argon2i$" ++ version ++ Bytes.ofString "$" ++ costs ++ Bytes.ofString "$" ++
    salt ++ Bytes.ofString "$" ++ hash

def costsLine (memory iterations parallelism : Bytes) : Bytes :=
  Bytes.ofString "m=" ++ memory ++ Bytes.ofString ",t=" ++ iterations ++ Bytes.ofString ",p=" ++
    parallelism

/-- A line with a version, three costs, a salt and a derived key, as they are spelled. -/
def line (version memory iterations parallelism salt hash : Bytes) : Bytes :=
  fields (Bytes.ofString "v=" ++ version) (costsLine memory iterations parallelism) salt hash

/-- A text that is read as a hash, of which it states all but the key length. -/
structure Spells (encoded : Bytes) (h : Argon2Hash) : Prop where
  line : ∃ version memory iterations parallelism,
    encoded = Argon2Hash.line version memory iterations parallelism
        (Base64.encode .standard h.salt) (Base64.encode .standard h.hash) ∧
      Numeral version 19 ∧ Numeral memory h.params.memory.toNat ∧
      Numeral iterations h.params.iterations.toNat ∧
      Numeral parallelism h.params.parallelism.toNat
  withinBounds : h.params.WithinBounds
  hash_ne_nil : h.hash ≠ []
  keyLength : h.params.keyLength.toNat = h.hash.length

/-- A text of six fields with the tag and a version that is not the one in use. -/
structure OtherVersion (encoded : Bytes) (found : UInt32) : Prop where
  line : ∃ version costs salt hash,
    encoded = fields (Bytes.ofString "v=" ++ version) costs salt hash ∧
      dollar ∉ costs ∧ dollar ∉ salt ∧ dollar ∉ hash ∧ Numeral version found.toNat
  other : found.toNat ≠ 19

theorem start_text : Bytes.ofString "$argon2i$" = dollar :: (argon2Tag ++ [dollar]) := by decide

theorem dollar_text : Bytes.ofString "$" = [dollar] := by decide

theorem version_text : Bytes.ofString "v=" = [118, equalsSign] := by decide

theorem memory_text : Bytes.ofString "m=" = [costLetter .memory, equalsSign] := by decide

theorem iterations_text : Bytes.ofString ",t=" = [comma, costLetter .iterations, equalsSign] := by
  decide

theorem parallelism_text :
    Bytes.ofString ",p=" = [comma, costLetter .parallelism, equalsSign] := by decide

theorem splitOn_eq_fields_iff {encoded version costs salt hash : Bytes} :
    Bytes.splitOn dollar encoded = [[], argon2Tag, version, costs, salt, hash] ↔
      encoded = fields version costs salt hash ∧ dollar ∉ version ∧ dollar ∉ costs ∧
        dollar ∉ salt ∧ dollar ∉ hash := by
  have htag : dollar ∉ argon2Tag := by decide
  simp [Bytes.splitOn_eq_iff, List.intercalate_cons_cons, List.intercalate_singleton, fields, htag,
    start_text, dollar_text]

-- ----- Numbers

theorem not_mem_of_numeral {text : Bytes} {n : Nat} (h : Numeral text n) {b : UInt8}
    (hb : b = dollar ∨ b = comma) : b ∉ text := by
  have hread := Decimal.unsigned?_eq_some_iff.mpr h
  rcases hb with rfl | rfl <;> exact Decimal.not_mem_of_unsigned? hread (by decide) (by decide)

/-- A number after a letter and an equals sign. -/
theorem after?_bind_uint32?_eq_some_iff {start field : Bytes} {n : UInt32} :
    (after? start field).bind Decimal.uint32? = some n ↔
      ∃ text, field = start ++ text ∧ Numeral text n.toNat := by
  simp only [Option.bind_eq_some_iff, after?_eq_some_iff, Decimal.uint32?_eq_some_iff_numeral]

theorem readVersion_eq_ok_iff {field : Bytes} {n : UInt32} : readVersion field = .ok n ↔
    ∃ text, field = Bytes.ofString "v=" ++ text ∧ Numeral text n.toNat := by
  rw [version_text, ← after?_bind_uint32?_eq_some_iff, readVersion]
  cases (after? [118, equalsSign] field).bind Decimal.uint32? <;> simp [invalid]

theorem readCost_eq_ok_iff {c : Argon2Cost} {field : Option Bytes} {n : UInt32} :
    readCost c field = .ok n ↔
      ∃ text, field = some (costLetter c :: equalsSign :: text) ∧ Numeral text n.toNat := by
  have hread : readCost c field = .ok n ↔
      (field.bind (after? [costLetter c, equalsSign])).bind Decimal.uint32? = some n := by
    simp only [readCost]
    cases (field.bind (after? [costLetter c, equalsSign])).bind Decimal.uint32? <;> simp [invalid]
  rw [hread]
  cases field with
  | none => simp
  | some field =>
    rw [Option.bind_some, after?_bind_uint32?_eq_some_iff]
    simp

-- ----- Costs

theorem splitOn_eq_costsLine_iff {field memory iterations parallelism : Bytes} :
    Bytes.splitOn comma field = [costLetter .memory :: equalsSign :: memory,
        costLetter .iterations :: equalsSign :: iterations,
        costLetter .parallelism :: equalsSign :: parallelism] ↔
      field = costsLine memory iterations parallelism ∧ comma ∉ memory ∧ comma ∉ iterations ∧
        comma ∉ parallelism := by
  have hletter c : comma ≠ costLetter c := by cases c <;> decide
  have hequals : comma ≠ equalsSign := by decide
  simp [Bytes.splitOn_eq_three_iff, costsLine, hletter, hequals, memory_text, iterations_text,
    parallelism_text]

theorem length_le_three_iff {parts : List Bytes} {a b c : Bytes} (ha : parts[0]? = some a)
    (hb : parts[1]? = some b) (hc : parts[2]? = some c) :
    ¬ 3 < parts.length ↔ parts = [a, b, c] := by
  match parts, ha, hb, hc with
  | [_, _, _], rfl, rfl, rfl => simp
  | _ :: _ :: _ :: _ :: _, _, _, _ => simp

theorem readCosts_eq_ok_iff {field : Bytes} {m t p : UInt32} : readCosts field = .ok (m, t, p) ↔
    ∃ memory iterations parallelism, field = costsLine memory iterations parallelism ∧
      Numeral memory m.toNat ∧ Numeral iterations t.toNat ∧ Numeral parallelism p.toNat := by
  simp only [readCosts, bind_eq_ok_iff, readCost_eq_ok_iff]
  constructor
  · rintro ⟨_, ⟨memory, hmemory, hm⟩, _, ⟨iterations, hiterations, ht⟩, _,
      ⟨parallelism, hparallelism, hp⟩, h⟩
    split at h
    · cases h
    · rename_i hlength
      cases h
      rw [length_le_three_iff hmemory hiterations hparallelism, splitOn_eq_costsLine_iff]
        at hlength
      exact ⟨memory, iterations, parallelism, hlength.1, hm, ht, hp⟩
  · rintro ⟨memory, iterations, parallelism, hfield, hm, ht, hp⟩
    have hparts := splitOn_eq_costsLine_iff.mpr ⟨hfield, not_mem_of_numeral hm (.inr rfl),
      not_mem_of_numeral ht (.inr rfl), not_mem_of_numeral hp (.inr rfl)⟩
    simp only [hparts]
    exact ⟨m, ⟨memory, rfl, hm⟩, t, ⟨iterations, rfl, ht⟩, p, ⟨parallelism, rfl, hp⟩, rfl⟩

-- ----- The salt and the derived key

theorem read64_eq_ok_iff {fault : Base64.Error → HashFault} {field bs : Bytes} :
    read64 fault field = .ok bs ↔ field = Base64.encode .standard bs := by
  rw [← Base64.decode_eq_ok_iff, read64]
  cases Base64.decode .standard field <;> simp [invalid]

theorem read64_encode (fault : Base64.Error → HashFault) (bs : Bytes) :
    read64 fault (Base64.encode .standard bs) = .ok bs :=
  read64_eq_ok_iff.mpr rfl

/-- After the fields are read, only the bounds are left. The key length is not in
them and is taken from the derived key. -/
theorem readFields_of_read {version costs : Bytes} {h : Argon2Hash}
    (hversion : readVersion version = .ok argon2Version)
    (hcosts : readCosts costs = .ok (h.params.memory, h.params.iterations, h.params.parallelism))
    (hne : h.hash ≠ []) (hlength : h.params.keyLength.toNat = h.hash.length) :
    readFields version costs (Base64.encode .standard h.salt) (Base64.encode .standard h.hash) =
      match h.params.exceeded? with
      | some c => invalid (.costOutOfRange c)
      | none => .ok h := by
  obtain ⟨⟨memory, iterations, parallelism, keyLength⟩, salt, hash⟩ := h
  have hfits : ¬ UInt32.size ≤ hash.length := by
    rw [Nat.not_le, ← hlength]
    exact keyLength.toNat_lt_size
  obtain rfl : UInt32.ofNat hash.length = keyLength := by
    rw [← hlength, UInt32.ofNat_toNat]
  rw [readFields, bind_of_ok _ hversion, if_neg (by simp), bind_of_ok _ hcosts]
  dsimp only
  rw [bind_of_ok _ (read64_encode _ _), bind_of_ok _ (read64_encode _ _)]
  exact (if_neg hne).trans (if_neg hfits)

theorem read_of_readFields {version costs salt hash : Bytes} {h : Argon2Hash}
    (hread : readFields version costs salt hash = .ok h) :
    readVersion version = .ok argon2Version ∧
      readCosts costs = .ok (h.params.memory, h.params.iterations, h.params.parallelism) ∧
      salt = Base64.encode .standard h.salt ∧ hash = Base64.encode .standard h.hash ∧
      h.hash ≠ [] ∧ h.params.keyLength.toNat = h.hash.length ∧ h.params.WithinBounds := by
  simp only [readFields, bind_eq_ok_iff, refuse_eq_ok_iff, invalid, read64_eq_ok_iff,
    Decidable.not_not] at hread
  obtain ⟨_, hversion, rfl, ⟨m, t, p⟩, hcosts, salt, rfl, hash, rfl, hne, hfits, hresult⟩ := hread
  split at hresult
  · cases hresult
  · rename_i hexceeded
    cases hresult
    exact ⟨hversion, hcosts, rfl, rfl, hne, UInt32.toNat_ofNat_of_lt' (Nat.lt_of_not_le hfits),
      Argon2Params.exceeded?_eq_none_iff.mp hexceeded⟩

-- ----- Faults

/-- The fault of a hash that is malformed in some way. -/
def Malformed (e : CryptoError) : Prop := ∃ f, e = .invalidHash f

theorem malformed_of_readVersion {field : Bytes} {e : CryptoError}
    (h : readVersion field = .error e) : Malformed e := by
  unfold readVersion at h
  split at h
  · cases h
  · cases h
    exact ⟨_, rfl⟩

theorem malformed_of_readCost {c : Argon2Cost} {field : Option Bytes} {e : CryptoError}
    (h : readCost c field = .error e) : Malformed e := by
  simp only [readCost] at h
  split at h
  · cases h
  · cases h
    exact ⟨_, rfl⟩

theorem malformed_of_readCosts {field : Bytes} {e : CryptoError} (h : readCosts field = .error e) :
    Malformed e := by
  simp only [readCosts, bind_eq_error_iff] at h
  rcases h with h | ⟨m, -, h | ⟨t, -, h | ⟨p, -, h⟩⟩⟩
  · exact malformed_of_readCost h
  · exact malformed_of_readCost h
  · exact malformed_of_readCost h
  · split at h
    · cases h
      exact ⟨_, rfl⟩
    · cases h

theorem malformed_of_read64 {fault : Base64.Error → HashFault} {field : Bytes} {e : CryptoError}
    (h : read64 fault field = .error e) : Malformed e := by
  unfold read64 at h
  split at h
  · cases h
  · cases h
    exact ⟨_, rfl⟩

/-- Only the version is not held against the hash. -/
theorem readFields_eq_error {version costs salt hash : Bytes} {e : CryptoError}
    (h : readFields version costs salt hash = .error e) :
    (∃ found, readVersion version = .ok found ∧ found ≠ argon2Version ∧
      e = .incompatibleArgonVersion found argon2Version) ∨ Malformed e := by
  simp only [readFields, bind_eq_error_iff, refuse_eq_error_iff, invalid] at h
  rcases h with h | ⟨found, hfound, ⟨hother, rfl⟩ | ⟨-, h | ⟨m, -, h | ⟨s, -, h | ⟨k, -, h⟩⟩⟩⟩⟩
  · exact .inr (malformed_of_readVersion h)
  · exact .inl ⟨found, hfound, hother, rfl⟩
  · exact .inr (malformed_of_readCosts h)
  · exact .inr (malformed_of_read64 h)
  · exact .inr (malformed_of_read64 h)
  · rcases h with ⟨-, rfl⟩ | ⟨-, ⟨-, rfl⟩ | ⟨-, h⟩⟩
    · exact .inr ⟨_, rfl⟩
    · exact .inr ⟨_, rfl⟩
    · split at h
      · cases h
        exact .inr ⟨_, rfl⟩
      · cases h

theorem readFields_of_otherVersion {version : Bytes} {found : UInt32}
    (h : readVersion version = .ok found) (hother : found ≠ argon2Version)
    (costs salt hash : Bytes) : readFields version costs salt hash =
      .error (.incompatibleArgonVersion found argon2Version) := by
  rw [readFields, bind_of_ok _ h]
  exact if_pos hother

-- ----- Whole texts

theorem read_of_fields {encoded version costs salt hash : Bytes}
    (h : Bytes.splitOn dollar encoded = [[], argon2Tag, version, costs, salt, hash]) :
    read encoded = readFields version costs salt hash := by
  simp only [read, h]
  exact if_neg (by simp)

theorem fields_or_malformed (encoded : Bytes) :
    (∃ version costs salt hash,
      Bytes.splitOn dollar encoded = [[], argon2Tag, version, costs, salt, hash]) ∨
    ∃ e, read encoded = .error e ∧ Malformed e := by
  unfold read
  split
  · split
    · exact .inr ⟨_, rfl, _, rfl⟩
    · rename_i lead tag version costs salt hash hparts hlead
      simp only [not_or, Decidable.not_not] at hlead
      obtain ⟨rfl, rfl⟩ := hlead
      exact .inl ⟨version, costs, salt, hash, hparts⟩
  · exact .inr ⟨_, rfl, _, rfl⟩

theorem dollar_not_mem_costsLine {memory iterations parallelism : Bytes} {m t p : Nat}
    (hm : Numeral memory m) (ht : Numeral iterations t) (hp : Numeral parallelism p) :
    dollar ∉ costsLine memory iterations parallelism := by
  have hmemory := not_mem_of_numeral hm (.inl rfl)
  have hiterations := not_mem_of_numeral ht (.inl rfl)
  have hparallelism := not_mem_of_numeral hp (.inl rfl)
  have hm : dollar ∉ Bytes.ofString "m=" := by decide
  have ht : dollar ∉ Bytes.ofString ",t=" := by decide
  have hp : dollar ∉ Bytes.ofString ",p=" := by decide
  simp [costsLine, hmemory, hiterations, hparallelism, hm, ht, hp]

theorem dollar_not_mem_versionText {version : Bytes} {n : Nat} (h : Numeral version n) :
    dollar ∉ Bytes.ofString "v=" ++ version := by
  have hversion := not_mem_of_numeral h (.inl rfl)
  have hstart : dollar ∉ Bytes.ofString "v=" := by decide
  simp [hversion, hstart]

/-- A line is read unless a cost in it is above its bound. -/
theorem read_line {version memory iterations parallelism : Bytes} {h : Argon2Hash}
    (hv : Numeral version 19) (hm : Numeral memory h.params.memory.toNat)
    (ht : Numeral iterations h.params.iterations.toNat)
    (hp : Numeral parallelism h.params.parallelism.toNat) (hne : h.hash ≠ [])
    (hlength : h.params.keyLength.toNat = h.hash.length) :
    read (line version memory iterations parallelism (Base64.encode .standard h.salt)
        (Base64.encode .standard h.hash)) =
      match h.params.exceeded? with
      | some c => invalid (.costOutOfRange c)
      | none => .ok h := by
  have hparts := splitOn_eq_fields_iff.mpr ⟨rfl, dollar_not_mem_versionText hv,
    dollar_not_mem_costsLine hm ht hp, Base64.dollar_not_mem_encode .standard h.salt,
    Base64.dollar_not_mem_encode .standard h.hash⟩
  rw [line, read_of_fields hparts]
  exact readFields_of_read (readVersion_eq_ok_iff.mpr ⟨version, rfl, hv⟩)
    (readCosts_eq_ok_iff.mpr ⟨memory, iterations, parallelism, rfl, hm, ht, hp⟩) hne hlength

theorem read_eq_ok_iff {encoded : Bytes} {h : Argon2Hash} :
    read encoded = .ok h ↔ Spells encoded h := by
  constructor
  · intro hread
    rcases fields_or_malformed encoded with ⟨version, costs, salt, hash, hparts⟩ | ⟨e, he, -⟩
    · rw [read_of_fields hparts] at hread
      obtain ⟨hversion, hcosts, rfl, rfl, hne, hlength, hbounds⟩ := read_of_readFields hread
      obtain ⟨version, rfl, hv⟩ := readVersion_eq_ok_iff.mp hversion
      obtain ⟨memory, iterations, parallelism, rfl, hm, ht, hp⟩ := readCosts_eq_ok_iff.mp hcosts
      obtain ⟨hencoded, -⟩ := splitOn_eq_fields_iff.mp hparts
      exact ⟨⟨version, memory, iterations, parallelism, hencoded, hv, hm, ht, hp⟩, hbounds, hne,
        hlength⟩
    · rw [he] at hread
      cases hread
  · rintro ⟨⟨version, memory, iterations, parallelism, rfl, hv, hm, ht, hp⟩, hbounds, hne,
      hlength⟩
    rw [read_line hv hm ht hp hne hlength, Argon2Params.exceeded?_eq_none_iff.mpr hbounds]

theorem read_eq_error {encoded : Bytes} {e : CryptoError} (h : read encoded = .error e) :
    (∃ found, OtherVersion encoded found ∧ e = .incompatibleArgonVersion found argon2Version) ∨
      Malformed e := by
  rcases fields_or_malformed encoded with ⟨version, costs, salt, hash, hparts⟩ | ⟨e', he, hinvalid⟩
  · rw [read_of_fields hparts] at h
    rcases readFields_eq_error h with ⟨found, hfound, hother, rfl⟩ | hinvalid
    · obtain ⟨version, rfl, hv⟩ := readVersion_eq_ok_iff.mp hfound
      obtain ⟨hencoded, -, hcosts, hsalt, hhash⟩ := splitOn_eq_fields_iff.mp hparts
      refine .inl ⟨found, ⟨⟨version, costs, salt, hash, hencoded, hcosts, hsalt, hhash, hv⟩, ?_⟩,
        rfl⟩
      exact fun hsame => hother (UInt32.toNat_inj.mp hsame)
    · exact .inr hinvalid
  · rw [he] at h
    cases h
    exact .inr hinvalid

theorem read_of_otherVersion {encoded : Bytes} {found : UInt32} (h : OtherVersion encoded found) :
    read encoded = .error (.incompatibleArgonVersion found argon2Version) := by
  obtain ⟨⟨version, costs, salt, hash, hencoded, hcosts, hsalt, hhash, hv⟩, hother⟩ := h
  have hparts := splitOn_eq_fields_iff.mpr
    ⟨hencoded, dollar_not_mem_versionText hv, hcosts, hsalt, hhash⟩
  rw [read_of_fields hparts]
  refine readFields_of_otherVersion (readVersion_eq_ok_iff.mpr ⟨version, rfl, hv⟩) ?_ _ _ _
  rintro rfl
  exact hother rfl

/-- A text is read as the hash that it spells, and as no hash if it spells none.
Then its fault is the version, if it has the fields of a hash and a version other
than 19, and otherwise the hash is invalid. -/
theorem read_outcome (encoded : Bytes) :
    (∀ h, read encoded = .ok h ↔ Spells encoded h) ∧
    (∀ found expected, read encoded = .error (.incompatibleArgonVersion found expected) ↔
      OtherVersion encoded found ∧ expected = 19) ∧
    ((∃ h, Spells encoded h) ∨ (∃ found, OtherVersion encoded found) ∨
      ∃ fault, read encoded = .error (.invalidHash fault)) := by
  refine ⟨fun h => read_eq_ok_iff, fun found expected => ⟨fun h => ?_, ?_⟩, ?_⟩
  · rcases read_eq_error h with ⟨found, hother, herror⟩ | ⟨fault, herror⟩
    · cases herror
      exact ⟨hother, rfl⟩
    · cases herror
  · rintro ⟨hother, rfl⟩
    exact read_of_otherVersion hother
  · cases h : read encoded with
    | ok stored => exact .inl ⟨stored, read_eq_ok_iff.mp h⟩
    | error e =>
      rcases read_eq_error h with ⟨found, hother, -⟩ | ⟨fault, rfl⟩
      · exact .inr (.inl ⟨found, hother⟩)
      · exact .inr (.inr ⟨fault, rfl⟩)

end Argon2Hash

end IdentityProvider.Password
