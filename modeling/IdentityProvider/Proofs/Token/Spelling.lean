import IdentityProvider.Proofs.Token.Signing

/-!
# How a token may be spelled

Three byte strings have one compact form (`carries_iff`), because base64 has one spelling
for each byte string, and no dot in it. So a compact form that is read is the only one that
holds the same header, claims and signature (`spelled_once`), and a storage that goes by
compact forms is not evaded by spelling a token in another way.
-/

namespace IdentityProvider.Token

variable {compact header claims signature : Bytes} {t : Token}

/-- The compact form of the bytes of a header, of claims and of a signature. -/
def join (header claims signature : Bytes) : Bytes :=
  Base64.encode .url header ++
    dot :: (Base64.encode .url claims ++ dot :: Base64.encode .url signature)

/-- The three parts of a compact form decode to these bytes. -/
def Carries (compact header claims signature : Bytes) : Prop :=
  ∃ h c g, CutInto compact h c g ∧ Base64.decode .url h = .ok header ∧
    Base64.decode .url c = .ok claims ∧ Base64.decode .url g = .ok signature

theorem cutInto_join (header claims signature : Bytes) :
    CutInto (join header claims signature) (Base64.encode .url header)
      (Base64.encode .url claims) (Base64.encode .url signature) where
  spelling := rfl
  header_free := Base64.dot_not_mem_encode _
  claims_free := Base64.dot_not_mem_encode _
  signature_free := Base64.dot_not_mem_encode _

theorem carries_iff :
    Carries compact header claims signature ↔ compact = join header claims signature := by
  constructor
  · rintro ⟨h, c, g, hcut, hh, hc, hg⟩
    rw [Base64.decode_eq_ok_iff] at hh hc hg
    subst hh hc hg
    exact hcut.spelling
  · rintro rfl
    exact ⟨_, _, _, cutInto_join _ _ _, Base64.decode_encode .url _, Base64.decode_encode .url _,
      Base64.decode_encode .url _⟩

/-- A token is read from the contents of the three parts alone. -/
theorem parseUnverified_eq_ok_iff_carries : parseUnverified compact = .ok t ↔
    ∃ header claims, Carries compact header claims t.signature ∧
      Header.format.decode header = .ok t.header ∧ Claims.format.decode claims = .ok t.claims ∧
      t.trust = .unverified := by
  rw [parseUnverified_eq_ok_iff]
  constructor
  · rintro ⟨message, ⟨hcut, ⟨header, hh, hheader⟩, ⟨claims, hc, hclaims⟩, hg⟩⟩
    exact ⟨header, claims, ⟨_, _, _, hcut, hh, hc, hg⟩, hheader, hclaims, rfl⟩
  · obtain ⟨hd, cl, sig, trust⟩ := t
    rintro ⟨header, claims, ⟨h, c, g, hcut, hh, hc, hg⟩, hheader, hclaims, rfl⟩
    exact ⟨_, .parts hcut ⟨header, hh, hheader⟩ ⟨claims, hc, hclaims⟩ hg⟩

theorem spelled_once (h : parseUnverified compact = .ok t) :
    (∃ header claims, Carries compact header claims t.signature ∧
      Header.format.decode header = .ok t.header ∧ Claims.format.decode claims = .ok t.claims) ∧
    ∀ header claims signature, Carries compact header claims signature →
      compact = join header claims signature ∧
        ∀ other, Carries other header claims signature → other = compact := by
  constructor
  · obtain ⟨header, claims, hcarries, hheader, hclaims, -⟩ :=
      parseUnverified_eq_ok_iff_carries.mp h
    exact ⟨header, claims, hcarries, hheader, hclaims⟩
  · intro header claims signature hcarries
    have hspelling := carries_iff.mp hcarries
    refine ⟨hspelling, fun other hother => ?_⟩
    rw [carries_iff.mp hother, hspelling]

/-- The sample token with the signature on record. -/
theorem spelled_once_sampleToken : ∃ compact header claims,
    RecordedKey.sampleToken.sign RecordedKey.sample = .ok compact ∧
      Carries compact header claims RecordedKey.sample.signature ∧
      compact = join header claims RecordedKey.sample.signature ∧
      ∀ other, Carries other header claims RecordedKey.sample.signature → other = compact := by
  have hparse := parseUnverified_compactForm
    { RecordedKey.sampleToken with signature := RecordedKey.sample.signature }
  obtain ⟨⟨header, claims, hcarries, -, -⟩, hspelling⟩ := spelled_once hparse
  exact ⟨_, header, claims, RecordedKey.sign_sampleToken, hcarries, hspelling _ _ _ hcarries⟩

end IdentityProvider.Token
