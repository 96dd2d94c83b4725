import IdentityProvider.Key

/-!
# Key documents

An envelope names the family of the key inside it, so a document is read for one
algorithm at most (`PublicKey.eq_of_ofDocument?`, `PrivateKey.eq_of_ofDocument?`).
-/

namespace IdentityProvider

open Der (Element)

-- ----- Envelopes

namespace KeyDocument

variable {a b : Algorithm} {document key : Bytes}

theorem family_injective (h : family a = family b) : a = b := by
  revert h
  cases a <;> cases b <;> decide

theorem readPublic_eq_some_iff : readPublic a document = some key ↔
    ∃ e, Der.readSequence document = some [family a, e] ∧ e.bits? = some key := by
  unfold readPublic
  constructor
  · intro h
    split at h
    · rename_i named e hmembers
      split at h
      · rename_i hnamed
        exact ⟨e, by rw [hmembers, hnamed], h⟩
      · cases h
    · cases h
  · rintro ⟨e, hmembers, hkey⟩
    rw [hmembers]
    simpa using hkey

/-- A private envelope, opened. -/
structure Holds (a : Algorithm) (document : Bytes) (number : Nat) (holder : Element)
    (members : List Element) : Prop where
  spelling : ∃ version, Der.readSequence document = some (version :: family a :: holder :: members) ∧
    version.natural? = some number
  trailing : trailingFits number members

theorem readPrivate_eq_some_iff : readPrivate a document = some key ↔
    ∃ number holder members, Holds a document number holder members ∧ holder.octets? = some key := by
  unfold readPrivate
  constructor
  · intro h
    split at h
    · rename_i version named holder members hmembers
      obtain ⟨number, hnumber, hkey⟩ := Option.bind_eq_some_iff.mp h
      split at hkey
      · rename_i hfits
        obtain ⟨rfl, htrailing⟩ := hfits
        exact ⟨number, holder, members, ⟨⟨version, hmembers, hnumber⟩, htrailing⟩, hkey⟩
      · cases hkey
    · cases h
  · rintro ⟨number, holder, members, ⟨⟨version, hmembers, hnumber⟩, htrailing⟩, hkey⟩
    simp [hmembers, hnumber, htrailing, hkey]

theorem eq_of_readPublic (ha : readPublic a document = some key)
    (hb : readPublic b document = some key') : a = b := by
  obtain ⟨e, hmembers, -⟩ := readPublic_eq_some_iff.mp ha
  obtain ⟨e', hmembers', -⟩ := readPublic_eq_some_iff.mp hb
  rw [hmembers] at hmembers'
  exact family_injective (List.cons.inj (Option.some.inj hmembers')).1

theorem eq_of_readPrivate (ha : readPrivate a document = some key)
    (hb : readPrivate b document = some key') : a = b := by
  obtain ⟨_, _, _, ⟨⟨_, hmembers, -⟩, -⟩, -⟩ := readPrivate_eq_some_iff.mp ha
  obtain ⟨_, _, _, ⟨⟨_, hmembers', -⟩, -⟩, -⟩ := readPrivate_eq_some_iff.mp hb
  rw [hmembers] at hmembers'
  exact family_injective (List.cons.inj (List.cons.inj (Option.some.inj hmembers')).2).1

end KeyDocument

-- ----- Families

open KeyDocument

variable {a b : Algorithm} {document : Bytes}

/-- The key that is read is of the family it is read for, and so is its envelope. -/
theorem PublicKey.envelope_of_ofDocument? {k : PublicKey} (h : ofDocument? a document = some k) :
    k.algorithm = a ∧ ∃ key, readPublic a document = some key := by
  cases a <;>
  · obtain ⟨key, hkey, h⟩ := Option.bind_eq_some_iff.mp h
    obtain ⟨inner, -, rfl⟩ := Option.map_eq_some_iff.mp h
    exact ⟨rfl, key, hkey⟩

theorem PrivateKey.envelope_of_ofDocument? {k : PrivateKey} (h : ofDocument? a document = some k) :
    k.algorithm = a ∧ ∃ key, readPrivate a document = some key := by
  cases a <;>
  · obtain ⟨key, hkey, h⟩ := Option.bind_eq_some_iff.mp h
    obtain ⟨inner, -, rfl⟩ := Option.map_eq_some_iff.mp h
    exact ⟨rfl, key, hkey⟩

theorem PublicKey.eq_of_ofDocument? {k k' : PublicKey} (ha : ofDocument? a document = some k)
    (hb : ofDocument? b document = some k') : a = b := by
  obtain ⟨-, key, hkey⟩ := envelope_of_ofDocument? ha
  obtain ⟨-, key', hkey'⟩ := envelope_of_ofDocument? hb
  exact eq_of_readPublic hkey hkey'

theorem PrivateKey.eq_of_ofDocument? {k k' : PrivateKey} (ha : ofDocument? a document = some k)
    (hb : ofDocument? b document = some k') : a = b := by
  obtain ⟨-, key, hkey⟩ := envelope_of_ofDocument? ha
  obtain ⟨-, key', hkey'⟩ := envelope_of_ofDocument? hb
  exact eq_of_readPrivate hkey hkey'

end IdentityProvider
