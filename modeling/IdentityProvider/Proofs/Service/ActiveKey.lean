import IdentityProvider.Proofs.Service.Steps
import IdentityProvider.Proofs.Token.Signing

/-!
# The active key

However a service is used, what it keeps of its key is derived from that key
(`Session.run_derived`), since only rotations change it. So what the service
signs it also reads, whatever key the token was issued under: `reread_of_reached`.
-/

namespace IdentityProvider

variable [VerifyingKey P] [SigningKey K P]

-- ----- What is kept of a key

structure SigningKeys.Derived (keys : SigningKeys K P) : Prop where
  publicKey : keys.publicKey = SigningKey.publicKey keys.privateKey
  algorithm : keys.algorithm = SigningKey.algorithm keys.privateKey
  keyId : keys.keyId = VerifyingKey.keyId keys.publicKey

theorem SigningKeys.derived_ofKey (key : K) : (SigningKeys.ofKey key : SigningKeys K P).Derived :=
  ⟨rfl, rfl, rfl⟩

theorem Service.new_eq_ok_iff {c : ServiceConfig} {key : K} {s : Service K P} :
    (Service.new c key).result = .ok s ↔
      configFault? c (SigningKey.algorithm key) = none ∧ s = ⟨c.issuer, c.lifespans, .ofKey key⟩ := by
  unfold Service.new
  split
  · rename_i f hfault
    simp [hfault, Attempt.fail, Logged.silent]
  · rename_i hnone
    simp [hnone, eq_comm]

namespace Session

-- ----- Steps

/-- A rotation derives everything anew; nothing else touches the service. -/
theorem step_service (s : Session K P) (o : Operation K) :
    (∃ key, o = .setKey key ∧ (s.step o).1.service = { s.service with keys := .ofKey key }) ∨
      (s.step o).1.service = s.service := by
  have heffect := s.effect_step o
  generalize (s.step o).1 = s' at heffect ⊢
  cases heffect with
  | rotation => exact .inl ⟨_, rfl, rfl⟩
  | _ => exact .inr rfl

theorem step_derived {s : Session K P} (h : s.service.keys.Derived) (o : Operation K) :
    (s.step o).1.service.keys.Derived := by
  rcases s.step_service o with ⟨key, -, hservice⟩ | hservice
  · rw [hservice]
    exact SigningKeys.derived_ofKey key
  · rw [hservice]
    exact h

theorem run_derived {s : Session K P} (h : s.service.keys.Derived) (os : List (Operation K)) :
    (s.run os).service.keys.Derived := by
  induction os generalizing s with
  | nil => exact h
  | cons o os ih => exact ih (step_derived h o)

end Session

namespace Service

/-- The service came to be from a configuration and a key, and was then used. -/
def Reached (s : Service K P) : Prop :=
  ∃ (c : ServiceConfig) (key : K) (start : Session K P) (os : List (Operation K)),
    (Service.new c key).result = .ok start.service ∧ (start.run os).service = s

theorem Reached.derived {s : Service K P} (h : s.Reached) : s.keys.Derived := by
  obtain ⟨c, key, start, os, hnew, rfl⟩ := h
  refine Session.run_derived ?_ os
  rw [(new_eq_ok_iff.mp hnew).2]
  exact SigningKeys.derived_ofKey key

-- ----- Signing and reading

theorem string_eq_ok_iff {s : Service K P} : s.string t = .ok compact ↔
    (t.restamp s.keys.algorithm s.keys.keyId).sign s.keys.privateKey = .ok compact := by
  have htrust : (t.restamp s.keys.algorithm s.keys.keyId).isTrusted = t.isTrusted := rfl
  unfold string
  split
  · rfl
  · rename_i huntrusted
    rw [Token.sign_eq_ok_iff, htrust]
    simp [huntrusted]

omit [SigningKey K P] in
theorem parse_eq_ok_iff {s : Service K P} : (s.parse compact).result = .ok t ↔
    Token.parseAndVerify compact s.keys.publicKey = .ok t := by
  unfold parse reported
  cases Token.parseAndVerify compact s.keys.publicKey <;> simp [Logged.silent]

/-- The token read from a compact form that the service made of another token. -/
structure Reread (s : Service K P) (t : Token) (compact : Bytes) (u : Token) : Prop where
  parsed : (s.parse compact).result = .ok u
  trust : u.trust = .verified
  header : u.header = { t.header with alg := s.keys.algorithm.name, kid := s.keys.keyId }
  claims : u.claims = { t.claims with kid := s.keys.keyId }
  /-- It is made into the same compact form. -/
  string : s.string u = .ok compact

theorem reread_of_string {s : Service K P} (hderived : s.keys.Derived)
    (hsound : SigningKey.Sound s.keys.privateKey) (h : s.string t = .ok compact) :
    ∃ u, s.Reread t compact u := by
  rw [string_eq_ok_iff] at h
  obtain ⟨-, halg, signature, hsign, rfl⟩ := Token.sign_eq_ok_iff.mp h
  refine ⟨{ t.restamp s.keys.algorithm s.keys.keyId with signature, trust := .verified },
    ?_, rfl, rfl, rfl, ?_⟩
  · rw [parse_eq_ok_iff, hderived.publicKey]
    exact Token.parseAndVerify_compactForm hsound halg hsign
  · rw [string_eq_ok_iff, Token.sign_eq_ok_iff]
    exact ⟨rfl, halg, signature, hsign, rfl⟩

/-- What is kept of the active key is derived from it, and its algorithm is one
of the two. Whatever key a token was issued or verified under, once the service
makes a compact form of it, it reads that as the token restamped for the active
key, and makes the same of it again. -/
theorem reread_of_reached {s : Service K P} (h : s.Reached)
    (hsound : SigningKey.Sound s.keys.privateKey) :
    s.keys.Derived ∧ s.keys.algorithm.name ∈ ["ES256", "RS256"] ∧
      ∀ t compact, s.string t = .ok compact → ∃ u, s.Reread t compact u := by
  refine ⟨h.derived, ?_, fun t compact hstring => reread_of_string h.derived hsound hstring⟩
  cases s.keys.algorithm <;> decide

-- ----- A rotation

/-- Some key of the other family. -/
def olderKey : RecordedKey := ⟨.rs256, "older", [], []⟩

def olderToken : Token :=
  .new (.only .rs256) olderKey.keyId { RecordedKey.sampleClaims with kid := olderKey.keyId }

def beforeRotation : Service RecordedKey RecordedKey := ⟨"identifo", {}, .ofKey olderKey⟩

def afterRotation : Service RecordedKey RecordedKey := ⟨"identifo", {}, .ofKey .sample⟩

theorem reached_afterRotation : afterRotation.Reached :=
  ⟨{}, olderKey, ⟨beforeRotation, .epoch, .epoch, .empty, [], []⟩, [.setKey .sample],
    new_eq_ok_iff.mpr ⟨by decide, rfl⟩, rfl⟩

theorem string_olderToken : afterRotation.string olderToken =
    .ok { RecordedKey.sampleToken with signature := RecordedKey.sample.signature }.compactForm :=
  string_eq_ok_iff.mpr RecordedKey.sign_sampleToken

theorem reread_of_reached_afterRotation : afterRotation.keys.Derived ∧
    ∃ compact u, afterRotation.string olderToken = .ok compact ∧
      afterRotation.Reread olderToken compact u := by
  obtain ⟨hderived, -, hreread⟩ := reread_of_reached reached_afterRotation (RecordedKey.sound _)
  obtain ⟨u, hu⟩ := hreread olderToken _ string_olderToken
  exact ⟨hderived, _, u, string_olderToken, hu⟩

end Service

end IdentityProvider
