import IdentityProvider.Proofs.Service.Provenance
import IdentityProvider.Proofs.Storage.TokenHistory

/-!
# What a revocation takes away

Refresh tokens are stored by their compact form, and a revocation drops the one
that it names. `stored_after_revocation`: in any run it leaves the refresh tokens
with other compact forms where they are. Two requests get the same compact form
when they say the same in the same second, since nothing in a token tells apart
the requests for it; revoking the one is then revoking the other, as in
`revoked_together`.
-/

namespace IdentityProvider

-- ----- Stored entries

namespace TokenStore

/-- The token is there, with the expiry that it states. -/
def Holds (s : TokenStore) (compact : Bytes) : Prop := ⟨compact, expiry? compact⟩ ∈ s.entries

variable {s : TokenStore} {now : Time} {compact other : Bytes}

theorem Holds.has (h : s.Holds compact) : s.has compact = true :=
  has_iff.mpr (List.mem_map_of_mem h)

theorem holds_save (s : TokenStore) (now : Time) (compact : Bytes) :
    (s.save now compact).Holds compact :=
  List.mem_cons_self

theorem Holds.delete (h : s.Holds compact) (hne : compact ≠ other) :
    (s.delete other).Holds compact :=
  List.mem_filter.mpr ⟨h, by simpa using hne⟩

theorem Holds.prune (h : s.Holds compact) (hpast : ¬ PastExpiry now compact) :
    (s.prune now).Holds compact := by
  refine List.mem_filter.mpr ⟨h, ?_⟩
  rw [← isExpired_iff (e := ⟨compact, expiry? compact⟩) rfl] at hpast
  simpa using hpast

theorem Holds.save (h : s.Holds compact) (hpast : ¬ PastExpiry now compact) (other : Bytes) :
    (s.save now other).Holds compact := by
  by_cases hsame : compact = other
  · subst hsame
    exact holds_save s now compact
  · exact List.mem_cons_of_mem _ ((h.prune hpast).delete hsame)

end TokenStore

variable [VerifyingKey P] [SigningKey K P]

-- ----- Compact forms of refresh tokens

namespace Service

/-- A refresh token as it is issued for a request, with the compact form that is made of it. -/
structure SignsRefresh (s : Service K P) (now : Time) (user : User) (app : App)
    (scopes : List String) (r : SignedToken) : Prop where
  token : r.token = (s.issue now (s.refreshGrant user app scopes)).result
  string : s.string r.token = .ok r.compact

variable {s s' : Service K P} {r r' : SignedToken}

theorem SignsRefresh.of_newRefreshToken
    (h : (s.newRefreshToken now storageNow tokens user app scopes).1.result = .ok r) :
    s.SignsRefresh now user app scopes r := by
  obtain ⟨-, htoken, hstring, -⟩ := newRefreshToken_eq_ok_iff.mp h
  exact ⟨htoken, hstring⟩

/-- An issued token is stamped for the key that it is then signed with. -/
theorem string_issue_eq_ok_iff : s.string (s.issue now g).result = .ok compact ↔
    (s.issue now g).result.header.alg = (SigningKey.algorithm s.keys.privateKey).name ∧
      ∃ signature, SigningKey.sign s.keys.privateKey (s.issue now g).result.signingInput =
          .ok signature ∧ compact = { (s.issue now g).result with signature }.compactForm := by
  rw [string_eq_ok_iff, Token.sign_eq_ok_iff]
  exact and_iff_right rfl

theorem SignsRefresh.compact (h : s.SignsRefresh now user app scopes r) :
    ∃ signature, SigningKey.sign s.keys.privateKey r.token.signingInput = .ok signature ∧
      r.compact = { r.token with signature }.compactForm := by
  have hstring := h.string
  rw [h.token] at hstring ⊢
  exact (string_issue_eq_ok_iff.mp hstring).2

theorem SignsRefresh.parseUnverified (h : s.SignsRefresh now user app scopes r) :
    ∃ signature, Token.parseUnverified r.compact =
      .ok { r.token with signature, trust := .unverified } := by
  obtain ⟨signature, -, hcompact⟩ := h.compact
  rw [hcompact]
  exact ⟨signature, Token.parseUnverified_compactForm _⟩

theorem SignsRefresh.pastExpiry_iff (h : s.SignsRefresh now user app scopes r) {time : Time} :
    TokenStore.PastExpiry time r.compact ↔
      ∃ exp, r.token.claims.exp = some exp ∧ exp.toInt < time.seconds := by
  obtain ⟨signature, hparse⟩ := h.parseUnverified
  unfold TokenStore.PastExpiry
  rw [hparse]
  simp only [Except.ok.injEq, exists_and_left, exists_eq_left']

/-- A compact form tells the token that it is of. -/
theorem SignsRefresh.token_eq (h : s.SignsRefresh now user app scopes r)
    (h' : s'.SignsRefresh now' user' app' scopes' r') (hcompact : r.compact = r'.compact) :
    r.token = r'.token := by
  obtain ⟨signature, hparse⟩ := h.parseUnverified
  obtain ⟨signature', hparse'⟩ := h'.parseUnverified
  rw [hcompact, hparse'] at hparse
  obtain ⟨hheader, hclaims, -, -⟩ := Token.mk.inj (Except.ok.inj hparse)
  rw [h.token, h'.token] at hheader hclaims ⊢
  exact congrArg₂ (fun header claims => Token.mk header claims [] .fresh) hheader.symm hclaims.symm

/-- Nothing but the token and the key goes into a signature. -/
theorem SignsRefresh.compact_eq (h : s.SignsRefresh now user app scopes r)
    (h' : s'.SignsRefresh now' user' app' scopes' r')
    (hkey : s.keys.privateKey = s'.keys.privateKey) (htoken : r.token = r'.token) :
    r.compact = r'.compact := by
  obtain ⟨signature, hsign, hcompact⟩ := h.compact
  obtain ⟨signature', hsign', hcompact'⟩ := h'.compact
  rw [hkey, htoken, hsign'] at hsign
  cases hsign
  rw [hcompact, hcompact', htoken]

/-- A token tells for whom it was asked for, and when. -/
theorem SignsRefresh.request_eq (h : s.SignsRefresh now user app scopes r)
    (h' : s'.SignsRefresh now' user' app' scopes' r') (htoken : r.token = r'.token) :
    user.id = user'.id ∧ app.id = app'.id ∧ joinScopes scopes = joinScopes scopes' ∧
      now = now' := by
  rw [h.token, h'.token] at htoken
  have hclaims := congrArg Token.claims htoken
  have hiat : now.toClaim = now'.toClaim := Option.some.inj (congrArg Claims.iat hclaims)
  exact ⟨congrArg Claims.sub hclaims, congrArg Claims.aud hclaims, congrArg Claims.scopes hclaims,
    Time.eq_of_toClaim_eq hiat⟩

end Service

namespace Session

-- ----- Events

/-- The request for a refresh token is granted. -/
def IssuesRefresh (user : User) (app : App) (scopes : List String) (r : SignedToken)
    (s : Session K P) (o : Operation K) : Prop :=
  ∃ name, o = .newRefreshToken user app scopes name ∧ (s.step o).2.result = .ok (.signed r)

def Revokes (compact : Bytes) (s : Session K P) (o : Operation K) : Prop :=
  ∃ p, o = .revoke p ∧ s.Presents p compact ∧ (s.step o).2.result = .ok .done

/-- A stored refresh token goes: it is revoked, or it has expired by the clock of the
storage when another one is saved. -/
inductive Drops (r : SignedToken) (s : Session K P) (o : Operation K) : Prop
  | revoked (h : s.Revokes r.compact o)
  | pruned (h : s.IssuesRefresh user app scopes other o) (hexp : r.token.claims.exp = some exp)
      (hpast : exp.toInt < s.storageNow.seconds)

/-- What happens at a place of a run: an operation, in the session that it finds. -/
def At (start : Session K P) (os : List (Operation K)) (i : Nat)
    (event : Session K P → Operation K → Prop) : Prop :=
  ∃ o, os[i]? = some o ∧ event (start.run (os.take i)) o

def store (s : Session K P) : TokenStore := s.storages.tokens.content

variable {s start : Session K P} {o : Operation K} {os : List (Operation K)} {r r₁ r₂ : SignedToken}

-- ----- Steps

theorem step_newRefreshToken (hrefusal : Service.refreshRefusal? user app scopes = none)
    (hup : s.storages.tokens.outage = none)
    (hsigns : s.service.SignsRefresh s.now user app scopes r) (name : String) :
    (s.step (.newRefreshToken user app scopes name)).1 =
        ((s.setTokens ⟨s.store.save s.storageNow r.compact, none⟩).nameToken name
          r.token).nameCompact name r.compact ∧
      (s.step (.newRefreshToken user app scopes name)).2.result = .ok (.signed r) := by
  have hgranted : (s.service.newRefreshToken s.now s.storageNow s.storages.tokens user app
      scopes).1.result = .ok r :=
    Service.newRefreshToken_eq_ok_iff.mpr ⟨hrefusal, hsigns.token, hsigns.string, hup⟩
  have htokens := s.service.newRefreshToken_snd s.now s.storageNow s.storages.tokens user app scopes
  simp only [hgranted, hup] at htokens
  rw [step, conclude_of_ok _ (result_ofAttempt_eq_ok_iff.mpr hgranted), htokens]
  exact ⟨rfl, rfl⟩

theorem issuesRefresh_iff : s.IssuesRefresh user app scopes r o ↔
    (∃ name, o = .newRefreshToken user app scopes name) ∧
      Service.refreshRefusal? user app scopes = none ∧ s.storages.tokens.outage = none ∧
      s.service.SignsRefresh s.now user app scopes r := by
  constructor
  · rintro ⟨name, rfl, hanswer⟩
    rw [step, conclude_eq_ok_iff] at hanswer
    obtain ⟨r', hresult, hr⟩ := hanswer
    cases hr
    obtain ⟨hrefusal, htoken, hstring, hup⟩ :=
      Service.newRefreshToken_eq_ok_iff.mp (result_ofAttempt_eq_ok_iff.mp hresult)
    exact ⟨⟨name, rfl⟩, hrefusal, hup, htoken, hstring⟩
  · rintro ⟨⟨name, rfl⟩, hrefusal, hup, hsigns⟩
    exact ⟨name, rfl, (step_newRefreshToken hrefusal hup hsigns name).2⟩

theorem IssuesRefresh.signs (h : s.IssuesRefresh user app scopes r o) :
    s.service.SignsRefresh s.now user app scopes r :=
  (issuesRefresh_iff.mp h).2.2.2

theorem IssuesRefresh.step_eq (h : s.IssuesRefresh user app scopes r o) : ∃ name,
    (s.step o).1 = ((s.setTokens ⟨s.store.save s.storageNow r.compact, none⟩).nameToken name
      r.token).nameCompact name r.compact := by
  obtain ⟨⟨name, rfl⟩, hrefusal, hup, hsigns⟩ := issuesRefresh_iff.mp h
  exact ⟨name, (step_newRefreshToken hrefusal hup hsigns name).1⟩

theorem IssuesRefresh.store_step (h : s.IssuesRefresh user app scopes r o) :
    (s.step o).1.store = s.store.save s.storageNow r.compact := by
  obtain ⟨name, hstep⟩ := h.step_eq
  exact congrArg store hstep

/-- The same request is granted again, with the same refresh token. -/
theorem IssuesRefresh.again (h : s.IssuesRefresh user app scopes r o) (name : String) :
    (s.step o).1.IssuesRefresh user app scopes r (.newRefreshToken user app scopes name) := by
  obtain ⟨-, hrefusal, -, hsigns⟩ := issuesRefresh_iff.mp h
  obtain ⟨name', hstep⟩ := h.step_eq
  rw [hstep]
  exact issuesRefresh_iff.mpr ⟨⟨name, rfl⟩, hrefusal, rfl, hsigns⟩

theorem step_revoke (hpresents : s.Presents p compact) (hup : s.storages.tokens.outage = none) :
    (s.step (.revoke p)).1 = s.setTokens ⟨s.store.delete compact, none⟩ ∧
      (s.step (.revoke p)).2.result = .ok .done := by
  have hrevoked : (Service.revokeRefreshToken s.storages.tokens compact).1.result = .ok () :=
    Service.revokeRefreshToken_eq_ok_iff.mpr hup
  have htokens := Service.revokeRefreshToken_snd s.storages.tokens compact
  simp only [hrevoked, hup] at htokens
  rw [step, compact?_eq_some_iff.mpr hpresents]
  simp only [conclude_of_ok _ (result_ofAttempt_eq_ok_iff.mpr hrevoked), htokens]
  exact ⟨rfl, trivial⟩

theorem revokes_iff : s.Revokes compact o ↔
    (∃ p, o = .revoke p ∧ s.Presents p compact) ∧ s.storages.tokens.outage = none := by
  constructor
  · rintro ⟨p, rfl, hpresents, hanswer⟩
    rw [step, compact?_eq_some_iff.mpr hpresents] at hanswer
    obtain ⟨u, hresult, -⟩ := conclude_eq_ok_iff.mp hanswer
    rw [result_ofAttempt_eq_ok_iff, Service.revokeRefreshToken_eq_ok_iff] at hresult
    exact ⟨⟨p, rfl, hpresents⟩, hresult⟩
  · rintro ⟨⟨p, rfl, hpresents⟩, hup⟩
    exact ⟨p, rfl, hpresents, (step_revoke hpresents hup).2⟩

theorem Revokes.store_step (h : s.Revokes compact o) :
    (s.step o).1.store = s.store.delete compact := by
  obtain ⟨⟨p, rfl, hpresents⟩, hup⟩ := revokes_iff.mp h
  exact congrArg store (step_revoke hpresents hup).1

theorem Revokes.has_step (h : s.Revokes compact o) : (s.step o).1.store.has compact = false := by
  rw [h.store_step, TokenStore.has_delete]
  simp

/-- What was issued can be revoked, since the storage has just answered. -/
theorem IssuesRefresh.revokes (h : s.IssuesRefresh user app scopes r o) (compact : Bytes) :
    (s.step o).1.Revokes compact (.revoke (.text compact)) := by
  obtain ⟨name, hstep⟩ := h.step_eq
  rw [hstep]
  exact revokes_iff.mpr ⟨⟨_, rfl, .text⟩, rfl⟩

/-- The store changes in two ways only. -/
theorem step_store (s : Session K P) (o : Operation K) :
    (∃ user app scopes r, s.IssuesRefresh user app scopes r o) ∨
      (∃ compact, s.Revokes compact o) ∨ (s.step o).1.store = s.store := by
  have heffect := s.effect_step o
  generalize (s.step o).1 = s' at heffect ⊢
  cases heffect with
  | refreshToken h =>
    obtain ⟨hrefusal, htoken, hstring, hup⟩ := Service.newRefreshToken_eq_ok_iff.mp h
    exact .inl ⟨_, _, _, _, issuesRefresh_iff.mpr ⟨⟨_, rfl⟩, hrefusal, hup, htoken, hstring⟩⟩
  | revocation hpresents hup =>
    exact .inr (.inl ⟨_, revokes_iff.mpr ⟨⟨_, rfl, hpresents⟩, hup⟩⟩)
  | @change c => cases c <;> exact .inr (.inr rfl)
  | _ => exact .inr (.inr rfl)

-- ----- Holding on to a refresh token

/-- A step keeps a stored refresh token, unless it is one at which the token goes. -/
theorem holds_step {service : Service K P} (hsigns : service.SignsRefresh asked user app scopes r)
    (h : s.store.Holds r.compact) (o : Operation K) :
    (s.step o).1.store.Holds r.compact ∨ s.Drops r o := by
  rcases s.step_store o with ⟨user', app', scopes', other, hissues⟩ | ⟨compact, hrevokes⟩ | hsame
  · rw [hissues.store_step]
    by_cases hpast : TokenStore.PastExpiry s.storageNow r.compact
    · obtain ⟨exp, hexp, hlt⟩ := hsigns.pastExpiry_iff.mp hpast
      exact .inr (.pruned hissues hexp hlt)
    · exact .inl (h.save hpast _)
  · rw [hrevokes.store_step]
    by_cases hcompact : r.compact = compact
    · rw [← hcompact] at hrevokes
      exact .inr (.revoked hrevokes)
    · exact .inl (h.delete hcompact)
  · rw [hsame]
    exact .inl h

theorem run_take_succ (start : Session K P) (h : os[i]? = some o) :
    start.run (os.take (i + 1)) = ((start.run (os.take i)).step o).1 := by
  rw [List.take_add_one, h, run, List.foldl_append]
  rfl

/-- From where it was issued a refresh token is stored up to any later place, unless
it goes in between. -/
theorem holds_run (hissues : start.At os j (IssuesRefresh user app scopes r)) (hn : j < n)
    (hlength : n ≤ os.length) :
    (start.run (os.take n)).store.Holds r.compact ∨ ∃ m, j < m ∧ start.At os m (Drops r) := by
  obtain ⟨o, ho, hissues⟩ := hissues
  induction n, hn using Nat.le_induction with
  | base =>
    rw [run_take_succ start ho, hissues.store_step]
    exact .inl (TokenStore.holds_save _ _ _)
  | succ n hn ih =>
    have hnext : os[n]? = some os[n] := List.getElem?_eq_getElem hlength
    rcases ih (by omega) with hheld | hdropped
    · rw [run_take_succ start hnext]
      rcases holds_step hissues.signs hheld os[n] with hheld | hdropped
      · exact .inl hheld
      · exact .inr ⟨n, hn, os[n], hnext, hdropped⟩
    · exact .inr hdropped

/-- Revoking one compact form is not dropping a refresh token with another. -/
theorem Revokes.not_drops (h : s.Revokes compact o) (hne : compact ≠ r.compact) :
    ¬ s.Drops r o := by
  obtain ⟨p, rfl, hpresents, -⟩ := h
  rintro (⟨p', hp, hpresents', -⟩ | ⟨⟨name, hname, -⟩, -, -⟩)
  · cases hp
    exact hne (hpresents.unique hpresents')
  · cases hname

/-- In any run, where one of two refresh tokens is revoked, the other is stored to
the end, unless it goes at some other place, or the two have one compact form.
They have it only if both requests were for the same user, app and scopes in the
same second and the same token was issued; a key signs that in one way only, and
so the store does not tell the one from the other. -/
theorem stored_after_revocation (h₁ : start.At os i (IssuesRefresh user₁ app₁ scopes₁ r₁))
    (h₂ : start.At os j (IssuesRefresh user₂ app₂ scopes₂ r₂))
    (hrevokes : start.At os k (Revokes r₁.compact)) :
    (r₁.compact ≠ r₂.compact → (start.run os).store.has r₂.compact = true ∨
      ∃ m, j < m ∧ m ≠ k ∧ start.At os m (Drops r₂)) ∧
    (r₁.compact = r₂.compact →
      (start.run (os.take (k + 1))).store.has r₂.compact = false ∧ r₁.token = r₂.token ∧
      user₁.id = user₂.id ∧ app₁.id = app₂.id ∧ joinScopes scopes₁ = joinScopes scopes₂ ∧
      (start.run (os.take i)).now = (start.run (os.take j)).now) ∧
    ((start.run (os.take i)).service.keys.privateKey =
        (start.run (os.take j)).service.keys.privateKey →
      r₁.token = r₂.token → r₁.compact = r₂.compact) := by
  obtain ⟨revoke, hrevoke, hrevokes⟩ := hrevokes
  obtain ⟨o₁, ho₁, hissues₁⟩ := h₁
  obtain ⟨o₂, ho₂, hissues₂⟩ := id h₂
  refine ⟨fun hne => ?_, fun hcompact => ?_, fun hkey htoken => ?_⟩
  · have hj : j < os.length := (List.getElem?_eq_some_iff.mp ho₂).1
    rcases holds_run h₂ hj le_rfl with hheld | ⟨m, hm, o, ho, hdrops⟩
    · rw [List.take_length] at hheld
      exact .inl hheld.has
    · refine .inr ⟨m, hm, ?_, o, ho, hdrops⟩
      -- The revocation names another compact form, so it is not what the token goes at.
      rintro rfl
      cases ho.symm.trans hrevoke
      exact hrevokes.not_drops hne hdrops
  · have htoken := hissues₁.signs.token_eq hissues₂.signs hcompact
    refine ⟨?_, htoken, hissues₁.signs.request_eq hissues₂.signs htoken⟩
    rw [run_take_succ start hrevoke, ← hcompact]
    exact hrevokes.has_step
  · exact hissues₁.signs.compact_eq hissues₂.signs hkey htoken

-- ----- One request twice

/-- The request for a refresh token, once more the same, and a revocation. -/
def askTwice (user : User) (app : App) (scopes : List String) (compact : Bytes) :
    List (Operation K) :=
  [.newRefreshToken user app scopes "a", .newRefreshToken user app scopes "b",
    .revoke (.text compact)]

/-- Whenever a request is granted it can be granted twice, and the revocation of the
first refresh token then takes the second one away. -/
theorem lost_after_askTwice
    (h : start.IssuesRefresh user app scopes r (.newRefreshToken user app scopes "a")) :
    start.At (askTwice user app scopes r.compact) 0 (IssuesRefresh user app scopes r) ∧
    start.At (askTwice user app scopes r.compact) 1 (IssuesRefresh user app scopes r) ∧
    start.At (askTwice user app scopes r.compact) 2 (Revokes r.compact) ∧
    (start.run (askTwice user app scopes r.compact)).store.has r.compact = false := by
  have hagain := h.again "b"
  have hrevokes := hagain.revokes r.compact
  refine ⟨⟨_, rfl, h⟩, ⟨_, rfl, hagain⟩, ⟨_, rfl, hrevokes⟩, ?_⟩
  rw [← hrevokes.has_step]
  rfl

-- ----- Refresh tokens on record

def offlineApp : App := { App.new "app-1" with offline := true }

def offlineUser : User := .new "user-1" "User"

def firstTime : Time := ⟨1700000000, by decide⟩

def secondTime : Time := ⟨1700000001, by decide⟩

/-- The refresh token of the secret scalar 8 for the user and the app. -/
def offlineToken (now : Time) : Token :=
  (Service.sampleService.issue now
    (Service.sampleService.refreshGrant offlineUser offlineApp [offlineScope])).result

/-- The secret scalar 8, with its signature of that refresh token. -/
def offlineKey (now : Time) (signature : Bytes) : RecordedKey :=
  { RecordedKey.sample with message := (offlineToken now).signingInput, signature }

def firstKey : RecordedKey := offlineKey firstTime
  [207, 124, 119, 228, 233, 202, 77, 81, 33, 198, 208, 87, 187, 182, 194, 247, 157, 75, 58, 9, 57,
    52, 89, 189, 244, 228, 75, 21, 5, 75, 18, 59, 124, 190, 90, 108, 169, 250, 224, 38, 16, 39, 141,
    201, 143, 93, 120, 233, 56, 186, 145, 197, 23, 50, 4, 246, 97, 209, 40, 79, 20, 248, 229, 205]

def secondKey : RecordedKey := offlineKey secondTime
  [99, 71, 61, 100, 188, 90, 209, 50, 106, 131, 130, 225, 168, 192, 121, 49, 57, 149, 207, 206, 176,
    84, 48, 50, 48, 39, 23, 116, 112, 239, 228, 119, 42, 13, 154, 13, 77, 155, 92, 19, 216, 195, 30,
    35, 97, 68, 150, 135, 70, 118, 246, 30, 73, 228, 47, 247, 211, 31, 172, 92, 95, 153, 29, 71]

/-- The refresh token with the compact form in which the recorded signature stands. -/
def offlineSigned (now : Time) (key : RecordedKey) : SignedToken :=
  ⟨offlineToken now, { offlineToken now with signature := key.signature }.compactForm⟩

def firstSigned : SignedToken := offlineSigned firstTime firstKey

def secondSigned : SignedToken := offlineSigned secondTime secondKey

theorem issuesRefresh_offline {s : Session RecordedKey RecordedKey} {signature : Bytes}
    (hservice : s.service = ⟨"identifo", {}, .ofKey (offlineKey s.now signature)⟩)
    (hup : s.storages.tokens.outage = none) (name : String) :
    s.IssuesRefresh offlineUser offlineApp [offlineScope]
      (offlineSigned s.now (offlineKey s.now signature))
      (.newRefreshToken offlineUser offlineApp [offlineScope] name) := by
  refine issuesRefresh_iff.mpr ⟨⟨name, rfl⟩, by decide, hup, ?_⟩
  rw [hservice]
  exact ⟨rfl, Service.string_issue_eq_ok_iff.mpr ⟨rfl, signature, if_pos rfl, rfl⟩⟩

def offlineSession : Session RecordedKey RecordedKey :=
  ⟨⟨"identifo", {}, .ofKey firstKey⟩, firstTime, firstTime, .empty, [], []⟩

theorem issuesRefresh_offlineSession :
    offlineSession.IssuesRefresh offlineUser offlineApp [offlineScope] firstSigned
      (.newRefreshToken offlineUser offlineApp [offlineScope] "a") :=
  issuesRefresh_offline rfl rfl "a"

def askOfflineTwice : List (Operation RecordedKey) :=
  askTwice offlineUser offlineApp [offlineScope] firstSigned.compact

/-- One refresh token is revoked, and the other is lost at no other place. -/
theorem revoked_together :
    offlineSession.At askOfflineTwice 0
      (IssuesRefresh offlineUser offlineApp [offlineScope] firstSigned) ∧
    offlineSession.At askOfflineTwice 1
      (IssuesRefresh offlineUser offlineApp [offlineScope] firstSigned) ∧
    offlineSession.At askOfflineTwice 2 (Revokes firstSigned.compact) ∧
    ¬ ((offlineSession.run askOfflineTwice).store.has firstSigned.compact = true ∨
      ∃ m, 1 < m ∧ m ≠ 2 ∧ offlineSession.At askOfflineTwice m (Drops firstSigned)) := by
  obtain ⟨hfirst, hsecond, hrevokes, hlost⟩ := lost_after_askTwice issuesRefresh_offlineSession
  refine ⟨hfirst, hsecond, hrevokes, ?_⟩
  rintro (hstored | ⟨m, hm, hother, o, ho, -⟩)
  · rw [askOfflineTwice, hlost] at hstored
    cases hstored
  · have hlength : m < 3 := (List.getElem?_eq_some_iff.mp ho).1
    omega

/-- The request is made again a second later. -/
def askOfflineLater : List (Operation RecordedKey) :=
  [.newRefreshToken offlineUser offlineApp [offlineScope] "a", .setTime .service 1700000001,
    .setKey secondKey, .newRefreshToken offlineUser offlineApp [offlineScope] "b",
    .revoke (.text firstSigned.compact)]

theorem issuesRefresh_askOfflineLater :
    (offlineSession.run (askOfflineLater.take 3)).now = secondTime ∧
    (offlineSession.run (askOfflineLater.take 3)).IssuesRefresh offlineUser offlineApp
      [offlineScope] secondSigned (.newRefreshToken offlineUser offlineApp [offlineScope] "b") := by
  obtain ⟨name, hfirst⟩ := issuesRefresh_offlineSession.step_eq
  have hrun : offlineSession.run (askOfflineLater.take 3) =
      ((((offlineSession.step (.newRefreshToken offlineUser offlineApp [offlineScope] "a")).1.step
        (.setTime .service 1700000001)).1.step (.setKey secondKey)).1) := rfl
  rw [hrun, hfirst]
  exact ⟨rfl, issuesRefresh_offline rfl rfl "b"⟩

theorem stored_after_revocation_askOfflineLater :
    offlineSession.At askOfflineLater 4 (Revokes firstSigned.compact) ∧
      (offlineSession.run askOfflineLater).store.has secondSigned.compact = true := by
  obtain ⟨hnow, hissues⟩ := issuesRefresh_askOfflineLater
  have hfirst : offlineSession.At askOfflineLater 0
      (IssuesRefresh offlineUser offlineApp [offlineScope] firstSigned) :=
    ⟨_, rfl, issuesRefresh_offlineSession⟩
  have hsecond : offlineSession.At askOfflineLater 3
      (IssuesRefresh offlineUser offlineApp [offlineScope] secondSigned) := ⟨_, rfl, hissues⟩
  have hrevokes : offlineSession.At askOfflineLater 4 (Revokes firstSigned.compact) :=
    ⟨_, rfl, hissues.revokes _⟩
  obtain ⟨hkept, hsame, -⟩ := stored_after_revocation hfirst hsecond hrevokes
  have hne : firstSigned.compact ≠ secondSigned.compact := by
    intro hcompact
    obtain ⟨-, -, -, -, -, htime⟩ := hsame hcompact
    rw [hnow] at htime
    exact absurd (congrArg Time.seconds htime) (by decide)
  refine ⟨hrevokes, ?_⟩
  rcases hkept hne with hstored | ⟨m, hm, hother, o, ho, -⟩
  · exact hstored
  · have hlength : m < 5 := (List.getElem?_eq_some_iff.mp ho).1
    omega

end Session

end IdentityProvider
