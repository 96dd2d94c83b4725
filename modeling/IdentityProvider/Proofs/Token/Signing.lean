import IdentityProvider.Proofs.Base64
import IdentityProvider.Proofs.Json.RoundTrip
import IdentityProvider.Proofs.Token.Parsing

/-!
# What was signed is what is verified

`parseAndVerify_of_sign`: a token that a key signed is read back and verified by
the key's public key, with the header and the claims it was signed with. Of the
key this needs only that it is `Sound`. A signing input spells one header and
one claims value (`content_of_signingInput`), and so a signature is over one
token's content only.
-/

namespace IdentityProvider

-- ----- Keys

section
variable [VerifyingKey P] [SigningKey K P]

/-- What the key signs, its public key verifies. -/
def SigningKey.Sound (key : K) : Prop :=
  ∀ message signature, SigningKey.sign key message = .ok signature →
    VerifyingKey.verify (SigningKey.publicKey key) message signature = .ok ()

end

theorem Header.regular : Header.format.shape.Regular := by decide

theorem Claims.regular : Claims.format.shape.Regular := by decide

namespace Token

-- ----- Parts

theorem spells_encodePart {f : Json.Format α} (hf : f.shape.Regular)
    (hview : f.build (f.view a) = a) : Spells f (encodePart f a) a := by
  refine ⟨f.encode a, Base64.decode_encode .url _, ?_⟩
  rw [Json.Format.decode_encode hf, hview]

theorem spells_header (hd : Header) : Spells Header.format (encodePart Header.format hd) hd :=
  spells_encodePart Header.regular hd.build_view

theorem spells_claims (cl : Claims) : Spells Claims.format (encodePart Claims.format cl) cl :=
  spells_encodePart Claims.regular cl.build_view

theorem Spells.unique {f : Json.Format α} (h : Spells f text a) (h' : Spells f text b) :
    a = b := by
  obtain ⟨bytes, hb, ha⟩ := h
  obtain ⟨bytes', hb', ha'⟩ := h'
  have hbytes : bytes = bytes' := Except.ok.inj (hb.symm.trans hb')
  rw [hbytes, ha'] at ha
  exact (Except.ok.inj ha).symm

theorem dot_not_mem_encodePart (f : Json.Format α) (a : α) : dot ∉ encodePart f a :=
  Base64.dot_not_mem_encode _

-- ----- Compact forms

/-- A token's compact form, with its signature. -/
def compactForm (t : Token) : Bytes := t.signingInput ++ dot :: Base64.encode .url t.signature

theorem cutInto_compactForm (t : Token) : CutInto t.compactForm (encodePart Header.format t.header)
    (encodePart Claims.format t.claims) (Base64.encode .url t.signature) where
  spelling := by simp [compactForm, signingInput]
  header_free := dot_not_mem_encodePart _ _
  claims_free := dot_not_mem_encodePart _ _
  signature_free := Base64.dot_not_mem_encode _

theorem decodes_compactForm (t : Token) :
    Decodes t.compactForm t.signingInput { t with trust := .unverified } :=
  .parts (cutInto_compactForm t) (spells_header _) (spells_claims _) (Base64.decode_encode .url _)

theorem parseUnverified_compactForm (t : Token) :
    parseUnverified t.compactForm = .ok { t with trust := .unverified } :=
  parseUnverified_eq_ok_iff.mpr ⟨_, decodes_compactForm t⟩

/-- A signing input tells the header and the claims. -/
theorem content_of_signingInput {t u : Token} (h : t.signingInput = u.signingInput) :
    t.header = u.header ∧ t.claims = u.claims := by
  have hcompact : t.compactForm = { u with signature := t.signature }.compactForm := by
    rw [compactForm, h]
    rfl
  have hcut := cutInto_compactForm t
  rw [hcompact] at hcut
  obtain ⟨hheader, hclaims, -⟩ := hcut.unique (cutInto_compactForm _)
  have hh := spells_header t.header
  have hc := spells_claims t.claims
  rw [hheader] at hh
  rw [hclaims] at hc
  exact ⟨hh.unique (spells_header _), hc.unique (spells_claims _)⟩

-- ----- Signing

variable [VerifyingKey P] [SigningKey K P]

theorem refusal?_eq_none_iff {t : Token} {a : Algorithm} :
    t.refusal? a = none ↔ t.isTrusted = true ∧ t.header.alg = a.name := by
  have hname : t.header.algorithm? = some a ↔ t.header.alg = a.name := Algorithm.ofName?_eq_some_iff
  unfold refusal?
  rw [← hname]
  split
  · rename_i htrust
    simp [htrust]
  · rename_i htrust
    rw [Decidable.not_not] at htrust
    split
    · rename_i halg
      simp [halg]
    · rename_i halg
      rw [Decidable.not_not] at halg
      simp [htrust, halg]

theorem sign_eq_ok_iff {key : K} : sign t key = .ok compact ↔
    t.isTrusted = true ∧ t.header.alg = (SigningKey.algorithm key).name ∧
      ∃ signature, SigningKey.sign key t.signingInput = .ok signature ∧
        compact = { t with signature }.compactForm := by
  rw [← and_assoc, ← refusal?_eq_none_iff]
  unfold sign
  constructor
  · intro h
    split at h
    · cases h
    · rename_i hnone
      refine ⟨hnone, ?_⟩
      split at h
      · rename_i signature hs
        cases h
        exact ⟨signature, hs, rfl⟩
      · cases h
  · rintro ⟨hnone, signature, hs, rfl⟩
    rw [hnone, hs]
    rfl

/-- What the signature of a sound key is over is read back as it was signed. -/
theorem parseAndVerify_compactForm {t : Token} {key : K} (hkey : SigningKey.Sound key)
    (halg : t.header.alg = (SigningKey.algorithm key).name)
    (hsign : SigningKey.sign key t.signingInput = .ok t.signature) :
    parseAndVerify t.compactForm (SigningKey.publicKey key) = .ok { t with trust := .verified } := by
  exact parseAndVerify_eq_ok_iff.mpr ⟨_, _, decodes_compactForm t, ⟨halg, hkey _ _ hsign⟩,
    parseUnverified_compactForm t, rfl⟩

theorem parseAndVerify_of_sign {key : K} (hkey : SigningKey.Sound key)
    (h : sign t key = .ok compact) :
    ∃ signature, SigningKey.sign key t.signingInput = .ok signature ∧
      parseAndVerify compact (SigningKey.publicKey key) =
        .ok { t with signature, trust := .verified } := by
  obtain ⟨-, halg, signature, hsign, rfl⟩ := sign_eq_ok_iff.mp h
  exact ⟨signature, hsign, parseAndVerify_compactForm hkey halg hsign⟩

end Token

-- ----- A signature on record

/-- A key of which one signature is known. -/
structure RecordedKey where
  algorithm : Algorithm
  keyId : String
  message : Bytes
  signature : Bytes

namespace RecordedKey

instance : VerifyingKey RecordedKey where
  algorithm := algorithm
  keyId := keyId
  verify key message signature :=
    if message = key.message ∧ signature = key.signature then .ok () else .error .plain

instance : SigningKey RecordedKey RecordedKey where
  publicKey key := key
  sign key message := if message = key.message then .ok key.signature else .error .plain

theorem sound (key : RecordedKey) : SigningKey.Sound key := by
  intro message signature hsign
  change (if message = key.message then Except.ok key.signature else .error SignatureFault.plain) = _ at hsign
  split at hsign
  · rename_i hmessage
    cases hsign
    exact if_pos ⟨hmessage, rfl⟩
  · cases hsign

/-- The key id of the secret scalar 8. -/
def sampleId : String := "cWexBuvhg58zfglPnW__QbeZlmk"

def sampleClaims : Claims :=
  { Claims.new .access with
    sub := "user-1"
    aud := "app-1"
    iat := some 1700000000
    kid := sampleId }

def sampleToken : Token := .new (.only .es256) sampleId sampleClaims

/-- The key of the secret scalar 8, with its signature of the sample token. -/
def sample : RecordedKey where
  algorithm := .es256
  keyId := sampleId
  message := sampleToken.signingInput
  signature :=
    [161, 125, 151, 57, 48, 230, 177, 243, 238, 15, 195, 244, 255, 136, 54, 18, 252, 76, 6, 233,
      122, 157, 68, 38, 238, 230, 175, 106, 112, 27, 63, 174, 71, 209, 14, 112, 91, 0, 222, 213,
      107, 251, 102, 252, 186, 127, 194, 207, 77, 79, 134, 45, 230, 232, 179, 198, 199, 188, 171,
      178, 245, 180, 140, 78]

theorem sign_sampleToken :
    sampleToken.sign sample = .ok { sampleToken with signature := sample.signature }.compactForm :=
  Token.sign_eq_ok_iff.mpr ⟨rfl, rfl, sample.signature, if_pos rfl, rfl⟩

end RecordedKey

-- ----- The round trip

namespace Token

variable [VerifyingKey P] [SigningKey K P]

/-- A token for a key, with any key id and any claims, is verified once it is
signed, and is then what it was; no other content has its signing input. -/
theorem sign_parseAndVerify (key : K) (hkey : SigningKey.Sound key) (kid : String)
    (claims : Claims) :
    (∀ compact, (new (.only (SigningKey.algorithm key)) kid claims).sign key = .ok compact →
      ∃ t, parseAndVerify compact (SigningKey.publicKey key) = .ok t ∧
        t.header = .new (.only (SigningKey.algorithm key)) kid ∧ t.claims = claims ∧
        t.trust = .verified) ∧
    ∀ t u : Token, t.signingInput = u.signingInput → t.header = u.header ∧ t.claims = u.claims := by
  refine ⟨fun compact h => ?_, fun t u h => content_of_signingInput h⟩
  obtain ⟨signature, -, hparse⟩ := parseAndVerify_of_sign hkey h
  exact ⟨_, hparse, rfl, rfl, rfl⟩

theorem sign_parseAndVerify_sample : ∃ compact t,
    RecordedKey.sampleToken.sign RecordedKey.sample = .ok compact ∧
    parseAndVerify compact RecordedKey.sample = .ok t ∧ t.header = RecordedKey.sampleToken.header ∧
    t.claims = RecordedKey.sampleClaims ∧ t.trust = .verified := by
  obtain ⟨t, hparse, hheader, hclaims, htrust⟩ :=
    (sign_parseAndVerify RecordedKey.sample RecordedKey.sample.sound RecordedKey.sampleId
      RecordedKey.sampleClaims).1 _ RecordedKey.sign_sampleToken
  exact ⟨_, t, RecordedKey.sign_sampleToken, hparse, hheader, hclaims, htrust⟩

end Token

end IdentityProvider
