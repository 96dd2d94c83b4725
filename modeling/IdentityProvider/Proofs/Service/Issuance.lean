import IdentityProvider.Proofs.Service.Provenance
import IdentityProvider.Proofs.Service.Rotation
import IdentityProvider.Proofs.Token.Validation

/-!
# How long issued tokens are valid

`valid_within_lifespan`: a token that a service issues is valid from the second
of its issue to the end of its lifespan, which is the app's if that is positive
and else the configured one, and no longer than times can be stated. Since the
configuration is checked when the service is built, no token is expired from the
start, whatever the app says and however the service was used before.
-/

namespace IdentityProvider

-- ----- Lifespans

theorem Lifespans.pos_of_fault? {l : Lifespans} (h : l.fault? = none) (kind : TokenKind) :
    0 < l.ofKind kind := by
  have hmem : kind ∈ TokenKind.all := by cases kind <;> decide
  have hnot := List.find?_eq_none.mp h kind hmem
  exact Int64.not_le.mp (by simpa using hnot)

theorem ServiceConfig.lifespan_pos {c : ServiceConfig} (h : c.fault? = none) (kind : TokenKind) :
    0 < c.lifespans.ofKind kind := by
  unfold ServiceConfig.fault? at h
  split at h
  · cases h
  · exact Lifespans.pos_of_fault? (Option.map_eq_none_iff.mp h) kind

/-- How long a token of a kind is valid; an app may have a lifespan of its own for it. -/
def Lifespans.inForce (l : Lifespans) (kind : TokenKind) : Option Int64 → Int64
  | some own => if 0 < own then own else l.ofKind kind
  | none => l.ofKind kind

theorem Lifespans.inForce_pos {l : Lifespans} {kind : TokenKind} (h : 0 < l.ofKind kind)
    (own : Option Int64) : 0 < l.inForce kind own := by
  cases own with
  | none => exact h
  | some own =>
    rw [inForce]
    split
    · assumption
    · exact h

-- ----- Times

/-- Only the last time that can be stated bounds a later one. -/
theorem Time.toInt_after (now : Time) {lifespan : Int64} (h : 0 < lifespan) :
    (now.after lifespan).toInt = min (now.seconds + lifespan.toInt) Int64.maxValue.toInt := by
  have hrange := now.inRange
  unfold earliest latest at hrange
  have hpos : 0 < lifespan.toInt := Int64.lt_iff_toInt_lt.mp h
  have hmax : Int64.maxValue.toInt = 0x7fffffffffffffff := by decide
  rw [after, Int64.toInt_ofInt_of_le (by omega) (by omega), hmax]
  omega

namespace Service

-- ----- Issued tokens

/-- A fresh token of the active key, issued now for so many seconds. -/
structure IssuedFor (s : Service K P) (now : Time) (kind : TokenKind) (lifespan : Int64)
    (t : Token) : Prop where
  trust : t.trust = .fresh
  header : t.header = ⟨"JWT", s.keys.algorithm.name, s.keys.keyId⟩
  kind : t.claims.kind = kind
  issuer : t.claims.iss = s.issuer
  issuedAt : ∃ iat, t.claims.iat = some iat ∧ iat.toInt = now.seconds
  expiry : ∃ exp, t.claims.exp = some exp ∧
    exp.toInt = min (now.seconds + lifespan.toInt) Int64.maxValue.toInt

/-- What the service gives out for a request, with the kind of token that was
asked for and the lifespan of its app, if there is one. -/
inductive Issues [VerifyingKey P] [SigningKey K P] (s : Service K P) (now : Time) :
    TokenKind → Option Int64 → Token → Prop
  | access (h : (s.newToken now user app scopes).result = .ok t) :
    Issues s now .access (some app.tokenLifespan) t
  | refreshed (happ : app old.claims.aud = .ok a)
      (h : (s.refreshToken now app user old).result = .ok t) :
    Issues s now .access (some a.tokenLifespan) t
  | refresh (h : (s.newRefreshToken now storageNow tokens user app scopes).1.result = .ok r) :
    Issues s now .refresh (some app.refreshTokenLifespan) r.token
  | invite (h : (s.newInviteToken now email role).result = .ok t) : Issues s now .invite none t
  | reset (h : (s.newResetToken now userId).result = .ok t) : Issues s now .reset none t
  | webCookie (h : (s.newWebCookieToken now user).result = .ok t) :
    Issues s now .webCookie none t

variable {s : Service K P} {now : Time} {kind : TokenKind} {own : Option Int64} {t : Token}

theorem issuedFor_issue (s : Service K P) (now : Time) {g : Grant} (h : 0 < g.lifespan) :
    s.IssuedFor now g.kind g.lifespan (s.issue now g).result :=
  ⟨rfl, rfl, rfl, rfl, ⟨_, rfl, now.toInt_toClaim⟩, ⟨_, rfl, now.toInt_after h⟩⟩

theorem alg_of_issuedFor {lifespan : Int64} (h : s.IssuedFor now kind lifespan t) :
    t.header.alg = "ES256" ∨ t.header.alg = "RS256" := by
  rw [h.header]
  cases s.keys.algorithm
  · exact .inl rfl
  · exact .inr rfl

/-- The clock is far from the last time that can be stated, so there is always
something left to it. -/
theorem valid_of_issuedFor {lifespan : Int64} (hpos : 0 < lifespan)
    (h : s.IssuedFor now kind lifespan t) :
    ∃ iat exp, t.claims.iat = some iat ∧ t.claims.exp = some exp ∧ iat.toInt < exp.toInt ∧
      ∀ p : Policy, p.NamesOnly t → ∀ time,
        (p.validate time t = .ok () ↔ iat.toInt ≤ time.seconds ∧ time.seconds ≤ exp.toInt) ∧
        (p.validate time t = .error .noExpiration ↔ exp.toInt < time.seconds) ∧
        (p.validate time t = .error .noIssuedAt ↔ time.seconds < iat.toInt) := by
  obtain ⟨iat, hiat, hnow⟩ := h.issuedAt
  obtain ⟨exp, hexp, huntil⟩ := h.expiry
  have hlt : iat.toInt < exp.toInt := by
    -- The lifespan may be cut short, but at a time that no clock comes to.
    have hrange := now.inRange.2
    have hlifespan : 0 < lifespan.toInt := Int64.lt_iff_toInt_lt.mp hpos
    have hmax : latest < Int64.maxValue.toInt := by decide
    rw [hnow, huntil]
    omega
  refine ⟨iat, exp, hiat, hexp, hlt, fun p hp time => ?_⟩
  exact hp.validate_iff (.inl h.trust) (alg_of_issuedFor h) hiat hexp hlt.le time

variable [VerifyingKey P] [SigningKey K P]

theorem Issues.grant (h : s.Issues now kind own t) : ∃ g : Grant, g.kind = kind ∧
    g.lifespan = s.lifespans.inForce kind own ∧ t = (s.issue now g).result := by
  cases h with
  | access h =>
    obtain ⟨-, -, rfl⟩ := newToken_eq_ok_iff.mp h
    exact ⟨_, rfl, rfl, rfl⟩
  | refreshed happ h =>
    obtain ⟨a', u, hgranted, rfl⟩ := refreshToken_eq_ok_iff.mp h
    cases happ.symm.trans hgranted.app
    exact ⟨_, rfl, rfl, rfl⟩
  | refresh h =>
    obtain ⟨-, htoken, -⟩ := newRefreshToken_eq_ok_iff.mp h
    exact ⟨_, rfl, rfl, htoken⟩
  | invite h => exact ⟨_, rfl, rfl, (issueUnless_eq_ok_iff.mp h).2⟩
  | reset h => exact ⟨_, rfl, rfl, (issueUnless_eq_ok_iff.mp h).2⟩
  | webCookie h => exact ⟨_, rfl, rfl, (issueUnless_eq_ok_iff.mp h).2⟩

theorem Issues.issuedFor (h : s.Issues now kind own t)
    (hpos : 0 < s.lifespans.inForce kind own) :
    s.IssuedFor now kind (s.lifespans.inForce kind own) t := by
  obtain ⟨g, rfl, hlifespan, rfl⟩ := h.grant
  rw [← hlifespan] at hpos ⊢
  exact issuedFor_issue s now hpos

/-- Whatever a service was used for, a token that it issues is a fresh one of its
active key, from now for the lifespan in force, which is positive. A policy that
asks for nothing else than the token has accepts it from its issue to its expiry
and at no other time. -/
theorem valid_within_lifespan {c : ServiceConfig} {key : K} {start : Session K P}
    (hnew : (Service.new c key).result = .ok start.service) (os : List (Operation K))
    (h : (start.run os).service.Issues now kind own t) :
    0 < c.lifespans.inForce kind own ∧ (start.run os).service.issuer = c.issuer ∧
    (start.run os).service.IssuedFor now kind (c.lifespans.inForce kind own) t ∧
    ∃ iat exp, t.claims.iat = some iat ∧ t.claims.exp = some exp ∧ iat.toInt < exp.toInt ∧
      ∀ p : Policy, p.NamesOnly t → ∀ time,
        (p.validate time t = .ok () ↔ iat.toInt ≤ time.seconds ∧ time.seconds ≤ exp.toInt) ∧
        (p.validate time t = .error .noExpiration ↔ exp.toInt < time.seconds) ∧
        (p.validate time t = .error .noIssuedAt ↔ time.seconds < iat.toInt) := by
  have hservice := run_service_of_new hnew os
  obtain ⟨hfault, -⟩ := configFault?_eq_none_iff.mp (new_eq_ok_iff.mp hnew).1
  have hpos : 0 < c.lifespans.inForce kind own :=
    Lifespans.inForce_pos (ServiceConfig.lifespan_pos hfault kind) own
  have hlifespans : (start.run os).service.lifespans = c.lifespans := by rw [hservice]
  rw [← hlifespans] at hpos ⊢
  have hissued := h.issuedFor hpos
  exact ⟨hpos, by rw [hservice], hissued, valid_of_issuedFor hpos hissued⟩

-- ----- An app that asks for too much

/-- Its lifespan alone goes up to the last time that can be stated. -/
def endlessApp : App := { App.new "app-1" with tokenLifespan := Int64.maxValue }

def endlessToken : Token :=
  (sampleService.issue (.ofSeconds 60)
    (sampleService.accessGrant (.new "user-1" "User") endlessApp ["read"])).result

theorem newToken_endlessApp : (sampleService.newToken (.ofSeconds 60) (.new "user-1" "User")
    endlessApp ["read"]).result = .ok endlessToken :=
  newToken_eq_ok_iff.mpr ⟨rfl, rfl, rfl⟩

theorem valid_within_lifespan_endless : endlessToken.claims.exp = some Int64.maxValue ∧
    ∀ time, Policy.validate { audiences := ["app-1"], userId := some "user-1" } time endlessToken =
      .ok () ↔ 60 ≤ time.seconds := by
  have hnew : (Service.new {} RecordedKey.sample).result = .ok Session.sampleSession.service :=
    new_eq_ok_iff.mpr ⟨by decide, rfl⟩
  have hexp : endlessToken.claims.exp = some Int64.maxValue := by decide
  refine ⟨hexp, fun time => ?_⟩
  obtain ⟨-, -, -, iat, exp, hiat, hexp', -, hvalid⟩ :=
    valid_within_lifespan hnew [] (.access newToken_endlessApp)
  obtain ⟨hok, -, -⟩ := hvalid { audiences := ["app-1"], userId := some "user-1" }
    ⟨by decide, by simp, by decide, by simp⟩ time
  cases hiat
  cases hexp.symm.trans hexp'
  have hlatest : time.seconds ≤ Int64.maxValue.toInt := time.inRange.2.trans (by decide)
  have hsixty : (Time.ofSeconds 60).toClaim.toInt = 60 := by decide
  rw [hok, hsixty]
  exact and_iff_left hlatest

end Service

end IdentityProvider
