import IdentityProvider.Password.Hash
import IdentityProvider.Proofs.Bytes
import IdentityProvider.Proofs.Password.Argon2Hash
import IdentityProvider.Proofs.Password.BcryptHash

/-!
# Which stored hashes are checked

A stored hash is of one kind at most, and its kind says how it is checked. Of a
bcrypt hash only the cost and the salt are read; the rest is compared as text.
So there are misspelled hashes that no password belongs to and that are no error
either: `matchesHash_eq_false_iff_misspelled` says which.
-/

namespace IdentityProvider.Password

variable {suite : HashSuite} {password encoded inner pepper : Bytes}

-- ----- Kinds

theorem detect_argon2 (rest : Bytes) : HashKind.detect (argon2Start ++ rest) = .ok .argon2i := by
  rw [HashKind.detect, after?_eq_some_iff.mpr rfl]
  rfl

theorem detect_bcrypt (rest : Bytes) : HashKind.detect (bcryptStart ++ rest) = .ok .bcrypt := by
  have hother : after? argon2Start (bcryptStart ++ rest) = none := rfl
  rw [HashKind.detect, hother, after?_eq_some_iff.mpr rfl]
  rfl

theorem unwrap?_eq_some_iff : unwrap? encoded = some inner ↔
    encoded = Base64.encode .standard inner ∧ inner.toString?.isSome ∧
      ∃ rest, inner = bcryptStart ++ rest := by
  constructor
  · intro h
    unfold unwrap? at h
    split at h
    · rename_i found hfound
      split at h
      · rename_i htext
        cases h
        obtain ⟨rest, hrest⟩ := Option.isSome_iff_exists.mp htext.2
        exact ⟨Base64.decode_eq_ok_iff.mp hfound, htext.1, rest, after?_eq_some_iff.mp hrest⟩
      · cases h
    · cases h
  · rintro ⟨rfl, htext, rest, hrest⟩
    simp [unwrap?, Base64.decode_encode, htext, after?_eq_some_iff.mpr hrest]

theorem after?_dollar_encode (a : Base64.Alphabet) (start bs : Bytes) :
    after? (dollar :: start) (Base64.encode a bs) = none := by
  rw [Option.eq_none_iff_forall_ne_some]
  intro rest hrest
  have hmem : dollar ∈ Base64.encode a bs := by
    rw [after?_eq_some_iff.mp hrest]
    exact List.mem_cons_self
  exact Base64.dollar_not_mem_encode a bs hmem

theorem detect_wrapped (h : unwrap? encoded = some inner) :
    HashKind.detect encoded = .ok .wrappedBcrypt := by
  obtain ⟨rfl, -, -⟩ := unwrap?_eq_some_iff.mp h
  have hargon : after? argon2Start (Base64.encode .standard inner) = none :=
    after?_dollar_encode _ _ _
  have hbcrypt : after? bcryptStart (Base64.encode .standard inner) = none :=
    after?_dollar_encode _ _ _
  rw [HashKind.detect, hargon, hbcrypt, h]
  rfl

theorem detect_of_read {h : Argon2Hash} (hread : Argon2Hash.read encoded = .ok h) :
    HashKind.detect encoded = .ok .argon2i := by
  unfold Argon2Hash.read at hread
  split at hread
  · rename_i lead tag version costs salt hash hsplit
    split at hread
    · cases hread
    · rename_i hlead
      simp only [not_or, Decidable.not_not] at hlead
      obtain ⟨rfl, rfl⟩ := hlead
      obtain ⟨-, heq, -⟩ := Bytes.splitOn_eq_iff.mp hsplit
      simp only [List.intercalate_cons_cons, List.intercalate_singleton, List.append_assoc] at heq
      rw [heq]
      exact detect_argon2 _
  · cases hread

-- ----- Checks by kind

theorem matchesHash_argon2 (h : HashKind.detect encoded = .ok .argon2i) :
    matchesHash suite password encoded pepper = matchesArgon2 suite password encoded pepper :=
  bind_of_ok _ h

/-- Only the text that would be written for the hash belongs to a password. -/
theorem matchesBcrypt_of_spells {h : BcryptHash} {cost checksum : Bytes}
    (hspells : BcryptHash.Spells encoded h cost checksum) :
    matchesBcrypt suite password encoded pepper =
      if bcryptCostOk h.cost then
        .ok (decide (cost = BcryptHash.twoDigits h.cost.toNat ∧
          checksum = Base64.encode .bcrypt (suite.bcrypt h.cost h.salt (peppered password pepper))))
      else .error (.invalidHash (.bcryptCost h.cost)) := by
  have hread : BcryptHash.read encoded = .ok h := BcryptHash.read_eq_ok_iff.mpr ⟨_, _, hspells⟩
  rw [matchesBcrypt, bind_of_ok _ hread, deriveBcrypt]
  by_cases hok : bcryptCostOk h.cost
  · simp only [hok, if_true, Bytes.equalInFull_eq_decide, hspells.write_eq_iff]
  · rw [if_neg hok, if_neg hok]

theorem spells_of_matchesBcrypt {b : Bool}
    (h : matchesBcrypt suite password encoded pepper = .ok b) :
    ∃ stored cost checksum, BcryptHash.Spells encoded stored cost checksum ∧
      bcryptCostOk stored.cost := by
  obtain ⟨stored, hread, hmatch⟩ := bind_eq_ok_iff.mp h
  obtain ⟨cost, checksum, hspells⟩ := BcryptHash.read_eq_ok_iff.mp hread
  refine ⟨stored, cost, checksum, hspells, ?_⟩
  rw [matchesBcrypt_of_spells hspells] at h
  split at h
  · assumption
  · cases h

-- ----- Bare and wrapped strings

/-- The bcrypt string that a stored hash is or wraps. -/
def bcryptText? (encoded : Bytes) : Option Bytes :=
  if (after? bcryptStart encoded).isSome then some encoded else unwrap? encoded

theorem bcryptText?_eq_some_iff : bcryptText? encoded = some inner ↔
    (encoded = inner ∧ ∃ rest, inner = bcryptStart ++ rest) ∨ unwrap? encoded = some inner := by
  constructor
  · intro h
    unfold bcryptText? at h
    split at h
    · rename_i hstart
      cases h
      obtain ⟨rest, hrest⟩ := Option.isSome_iff_exists.mp hstart
      exact .inl ⟨rfl, rest, after?_eq_some_iff.mp hrest⟩
    · exact .inr h
  · rintro (⟨rfl, rest, hrest⟩ | hunwrap)
    · rw [bcryptText?, after?_eq_some_iff.mpr hrest]
      rfl
    · obtain ⟨hencoded, -, -⟩ := unwrap?_eq_some_iff.mp hunwrap
      have hbare : after? bcryptStart encoded = none := by
        rw [hencoded]
        exact after?_dollar_encode _ _ _
      rw [bcryptText?, hbare, hunwrap]
      rfl

theorem detect_of_bcryptText? (h : bcryptText? encoded = some inner) :
    HashKind.detect encoded = .ok .bcrypt ∧ encoded = inner ∨
      HashKind.detect encoded = .ok .wrappedBcrypt ∧ unwrap? encoded = some inner := by
  rcases bcryptText?_eq_some_iff.mp h with ⟨rfl, rest, rfl⟩ | hunwrap
  · exact .inl ⟨detect_bcrypt rest, rfl⟩
  · exact .inr ⟨detect_wrapped hunwrap, hunwrap⟩

theorem bcryptText?_of_detect (h : HashKind.detect encoded = .ok .argon2i) :
    bcryptText? encoded = none := by
  rw [Option.eq_none_iff_forall_ne_some]
  intro inner hinner
  rcases detect_of_bcryptText? hinner with ⟨hkind, -⟩ | ⟨hkind, -⟩
  · rw [h] at hkind
    cases hkind
  · rw [h] at hkind
    cases hkind

theorem kind_of_bcryptText?_eq_none {kind : HashKind} (htext : bcryptText? encoded = none)
    (hkind : HashKind.detect encoded = .ok kind) : kind = .argon2i := by
  unfold bcryptText? at htext
  split at htext
  · cases htext
  · rename_i hbare
    rw [HashKind.detect, if_neg hbare, htext] at hkind
    split at hkind
    · cases hkind
      rfl
    · cases hkind

theorem matchesHash_of_bcryptText? (h : bcryptText? encoded = some inner) :
    matchesHash suite password encoded pepper = matchesBcrypt suite password inner pepper := by
  rcases detect_of_bcryptText? h with ⟨hkind, rfl⟩ | ⟨hkind, hunwrap⟩
  · exact bind_of_ok _ hkind
  · rw [matchesHash, bind_of_ok _ hkind]
    simp only [hunwrap]

/-- A check that comes to an answer has read a hash of one kind or the other. -/
theorem stored_of_matchesHash {b : Bool} (h : matchesHash suite password encoded pepper = .ok b) :
    (∃ stored, Argon2Hash.read encoded = .ok stored) ∨
      ∃ inner, bcryptText? encoded = some inner := by
  cases htext : bcryptText? encoded with
  | some inner => exact .inr ⟨inner, rfl⟩
  | none =>
    -- Without a bcrypt string only Argon2 is left, and its check begins by reading.
    obtain ⟨kind, hkind, hcheck⟩ := bind_eq_ok_iff.mp h
    obtain rfl := kind_of_bcryptText?_eq_none htext hkind
    obtain ⟨stored, hread, -⟩ := bind_eq_ok_iff.mp hcheck
    exact .inl ⟨stored, hread⟩

/-- What holds of a stored string or else of the text that it wraps. -/
def BareOrWrapped (P : Bytes → Prop) (encoded : Bytes) : Prop :=
  P encoded ∨
    ∃ inner, Base64.decode .standard encoded = .ok inner ∧ inner.toString?.isSome ∧ P inner

theorem bareOrWrapped_iff {P : Bytes → Prop}
    (hstart : ∀ bs, P bs → ∃ rest, bs = bcryptStart ++ rest) :
    BareOrWrapped P encoded ↔ ∃ inner, bcryptText? encoded = some inner ∧ P inner := by
  constructor
  · rintro (hbare | ⟨inner, hdecode, htext, hinner⟩)
    · exact ⟨encoded, bcryptText?_eq_some_iff.mpr (.inl ⟨rfl, hstart _ hbare⟩), hbare⟩
    · have hunwrap := unwrap?_eq_some_iff.mpr
        ⟨Base64.decode_eq_ok_iff.mp hdecode, htext, hstart _ hinner⟩
      exact ⟨inner, bcryptText?_eq_some_iff.mpr (.inr hunwrap), hinner⟩
  · rintro ⟨inner, htext, hinner⟩
    rcases bcryptText?_eq_some_iff.mp htext with ⟨rfl, -⟩ | hunwrap
    · exact .inl hinner
    · obtain ⟨rfl, htext, -⟩ := unwrap?_eq_some_iff.mp hunwrap
      exact .inr ⟨inner, Base64.decode_encode _ _, htext, hinner⟩

-- ----- Misspelled hashes

/-- A stored hash that says what to check it against: an Argon2 hash that can be
read, or a bcrypt hash in its form. -/
def WellFormed (encoded : Bytes) : Prop :=
  (∃ h, Argon2Hash.read encoded = .ok h) ∨ BareOrWrapped BcryptHash.WellFormed encoded

/-- A bcrypt string that is read although its cost is not in two digits or its
checksum has something else than symbols. -/
def BcryptHash.Misspelled (encoded : Bytes) : Prop :=
  ∃ (h : BcryptHash) (cost checksum : Bytes), Spells encoded h cost checksum ∧ bcryptCostOk h.cost ∧
    (cost ≠ twoDigits h.cost.toNat ∨ ∃ b ∈ checksum, b ∉ Base64.Alphabet.bcrypt.symbols)

theorem BcryptHash.WellFormed.start (h : BcryptHash.WellFormed encoded) :
    ∃ rest, encoded = bcryptStart ++ rest := by
  obtain ⟨version, cost, body, rfl, -⟩ := h
  exact ⟨_, rfl⟩

theorem BcryptHash.Misspelled.start (h : BcryptHash.Misspelled encoded) :
    ∃ rest, encoded = bcryptStart ++ rest := by
  obtain ⟨stored, cost, checksum, hspells, -⟩ := h
  exact ⟨_, hspells.eq_fields⟩

theorem BcryptHash.Misspelled.not_wellFormed (h : BcryptHash.Misspelled encoded) :
    ¬ BcryptHash.WellFormed encoded := by
  obtain ⟨stored, cost, checksum, hspells, -, hmiss⟩ := h
  rw [hspells.wellFormed_iff]
  rintro ⟨-, hcost, hsymbols⟩
  rcases hmiss with hmiss | ⟨b, hb, hsymbol⟩
  · exact hmiss hcost
  · exact hsymbol (hsymbols b hb)

theorem bareOrWrapped_wellFormed_iff : BareOrWrapped BcryptHash.WellFormed encoded ↔
    ∃ inner, bcryptText? encoded = some inner ∧ BcryptHash.WellFormed inner :=
  bareOrWrapped_iff fun _ => BcryptHash.WellFormed.start

theorem bareOrWrapped_misspelled_iff : BareOrWrapped BcryptHash.Misspelled encoded ↔
    ∃ inner, bcryptText? encoded = some inner ∧ BcryptHash.Misspelled inner :=
  bareOrWrapped_iff fun _ => BcryptHash.Misspelled.start

theorem matchesBcrypt_eq_false_iff_misspelled :
    matchesBcrypt suite password encoded pepper = .ok false ∧ ¬ BcryptHash.WellFormed encoded ↔
      BcryptHash.Misspelled encoded := by
  constructor
  · rintro ⟨hmatch, hform⟩
    obtain ⟨h, cost, checksum, hspells, hok⟩ := spells_of_matchesBcrypt hmatch
    refine ⟨h, cost, checksum, hspells, hok, ?_⟩
    simpa [hspells.wellFormed_iff, hok, Decidable.imp_iff_not_or] using hform
  · intro hmiss
    have hform := hmiss.not_wellFormed
    obtain ⟨h, cost, checksum, hspells, hok, -⟩ := hmiss
    refine ⟨?_, hform⟩
    rw [matchesBcrypt_of_spells hspells, if_pos hok, decide_eq_false]
    rintro ⟨hcost, rfl⟩
    exact hform (hspells.wellFormed_iff.mpr
      ⟨hok, hcost, fun b hb => Base64.mem_symbols_of_mem_encode hb⟩)

theorem not_wellFormed_of_misspelled (h : BareOrWrapped BcryptHash.Misspelled encoded) :
    ¬ WellFormed encoded := by
  obtain ⟨inner, htext, hmiss⟩ := bareOrWrapped_misspelled_iff.mp h
  rintro (⟨stored, hread⟩ | hwell)
  · rw [bcryptText?_of_detect (detect_of_read hread)] at htext
    cases htext
  · obtain ⟨inner', htext', hform⟩ := bareOrWrapped_wellFormed_iff.mp hwell
    obtain rfl : inner' = inner := Option.some.inj (htext'.symm.trans htext)
    exact hmiss.not_wellFormed hform

theorem matchesHash_of_misspelled (h : BareOrWrapped BcryptHash.Misspelled encoded) :
    matchesHash suite password encoded pepper = .ok false := by
  obtain ⟨inner, htext, hmiss⟩ := bareOrWrapped_misspelled_iff.mp h
  rw [matchesHash_of_bcryptText? htext]
  exact (matchesBcrypt_eq_false_iff_misspelled.mpr hmiss).1

/-- A check says that the password is wrong, instead of that the hash is
malformed, exactly for the misspelled hashes. -/
theorem matchesHash_eq_false_iff_misspelled :
    matchesHash suite password encoded pepper = .ok false ∧ ¬ WellFormed encoded ↔
      BareOrWrapped BcryptHash.Misspelled encoded := by
  constructor
  · rintro ⟨hmatch, hform⟩
    rcases stored_of_matchesHash hmatch with hargon | ⟨inner, htext⟩
    · exact absurd (.inl hargon) hform
    · rw [matchesHash_of_bcryptText? htext] at hmatch
      have hinner : ¬ BcryptHash.WellFormed inner := fun hwell =>
        hform (.inr (bareOrWrapped_wellFormed_iff.mpr ⟨inner, htext, hwell⟩))
      have hmiss := matchesBcrypt_eq_false_iff_misspelled.mp ⟨hmatch, hinner⟩
      exact bareOrWrapped_misspelled_iff.mpr ⟨inner, htext, hmiss⟩
  · intro h
    exact ⟨matchesHash_of_misspelled h, not_wellFormed_of_misspelled h⟩

/-- "$2a$4$" and fifty-three dots: a cost of one digit. -/
def shortCost : Bytes := BcryptHash.fields .a [52] (List.replicate bodyLength 46)

theorem misspelled_shortCost : BcryptHash.Misspelled shortCost := by
  have hspells : BcryptHash.Spells shortCost ⟨.a, 4, List.replicate bcryptSaltSize 0⟩ [52]
      (List.replicate (bodyLength - saltTextLength) 46) :=
    ⟨by decide, by decide, by decide, by decide, by decide⟩
  have hdigits : [52] ≠ BcryptHash.twoDigits 4 := by
    simp [BcryptHash.twoDigits, Decimal.ofNat_of_lt]
  exact ⟨_, _, _, hspells, by decide, .inl hdigits⟩

theorem matchesHash_shortCost :
    matchesHash .standard (Bytes.ofString "pw") shortCost (Bytes.ofString "pepper") = .ok false ∧
      ¬ WellFormed shortCost :=
  ⟨matchesHash_of_misspelled (.inl misspelled_shortCost),
    not_wellFormed_of_misspelled (.inl misspelled_shortCost)⟩

end IdentityProvider.Password
