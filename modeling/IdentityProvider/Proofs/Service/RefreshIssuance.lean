import IdentityProvider.Proofs.Service.Revocation

/-!
# Handing out a refresh token

`newRefreshToken_outcome`: a request for a refresh token is refused for the first
reason against it (`RefreshTokenRefused`), and the token storage is then what it was.
Otherwise the token that is handed out is one the service reads back as it
issued it, and the token storage has dropped what had expired by its own clock and
holds the compact form with the expiry of the token.
-/

namespace IdentityProvider

-- ----- Saving

/-- The entry has an expiry, and the time is past it. -/
def StoredToken.ExpiredAt (e : StoredToken) (now : Time) : Prop :=
  ∃ exp, e.exp = some exp ∧ exp.toInt < now.seconds

theorem StoredToken.isExpired_eq_true_iff {e : StoredToken} :
    e.isExpired now = true ↔ e.ExpiredAt now := by
  obtain ⟨compact, exp⟩ := e
  cases exp <;> simp [isExpired, ExpiredAt]

namespace TokenStore

theorem mem_save_iff {s : TokenStore} {e : StoredToken} :
    e ∈ (s.save now compact).entries ↔
      e = ⟨compact, expiry? compact⟩ ∨
        e.compact ≠ compact ∧ e ∈ s.entries ∧ ¬ e.ExpiredAt now := by
  rw [← StoredToken.isExpired_eq_true_iff]
  simp only [save, prune, delete, List.mem_cons, List.mem_filter, decide_eq_true_eq,
    Bool.not_eq_true', Bool.not_eq_true]
  tauto

/-- The storage after a refresh token was saved at some time of its own clock. An
earlier entry for the same compact form makes way for it. -/
structure Receives (before : TokenStore) (now : Time) (r : SignedToken) (after : TokenStore) :
    Prop where
  mem_iff : ∀ e, e ∈ after.entries ↔ e = ⟨r.compact, r.token.claims.exp⟩ ∨
    e.compact ≠ r.compact ∧ e ∈ before.entries ∧ ¬ e.ExpiredAt now
  tidy : before.Tidy → after.Tidy

theorem receives_save {s : TokenStore} {r : SignedToken}
    (h : expiry? r.compact = r.token.claims.exp) : s.Receives now r (s.save now r.compact) where
  mem_iff e := by rw [mem_save_iff, h]
  tidy hs := tidy_save hs now r.compact

end TokenStore

variable [VerifyingKey P] [SigningKey K P]

namespace Service

-- ----- Requests

/-- Nothing in the request stands against a refresh token. -/
structure Entitled (user : User) (app : App) (scopes : List String) : Prop where
  appActive : app.active = true
  appOffline : app.offline = true
  userActive : user.active = true
  offline : offlineScope ∈ scopes

/-- What stands against a request; each reason is given where those before it do not apply. -/
inductive RequestRefused (user : User) (app : App) (scopes : List String) : IdentityError → Prop
  | app (happ : app.active = false ∨ app.offline = false) :
    RequestRefused user app scopes .invalidApp
  | user (happ : app.active = true ∧ app.offline = true) (huser : user.active = false) :
    RequestRefused user app scopes .invalidUser
  | scope (happ : app.active = true ∧ app.offline = true) (huser : user.active = true)
      (hscope : offlineScope ∉ scopes) : RequestRefused user app scopes .invalidOfflineScope

theorem refreshRefusal?_eq_none_iff :
    refreshRefusal? user app scopes = none ↔ Entitled user app scopes := by
  constructor
  · intro h
    unfold refreshRefusal? at h
    split_ifs at h with happ huser hscope
    simp only [not_or, not_not, List.contains_iff_mem] at happ huser hscope
    exact ⟨happ.1, happ.2, huser, hscope⟩
  · rintro ⟨happ, hoffline, huser, hscope⟩
    simp [refreshRefusal?, happ, hoffline, huser, hscope]

theorem refreshRefusal?_eq_some_iff :
    refreshRefusal? user app scopes = some e ↔ RequestRefused user app scopes e := by
  constructor
  · intro h
    unfold refreshRefusal? at h
    split_ifs at h with happ huser hscope
    · cases h
      exact .app (by simpa using happ)
    · cases h
      exact .scope (by simpa using happ) huser (by simpa using hscope)
    · cases h
      exact .user (by simpa using happ) (by simpa using huser)
  · intro h
    cases h with
    | app happ => rcases happ with happ | happ <;> simp [refreshRefusal?, happ]
    | user happ huser => simp [refreshRefusal?, happ, huser]
    | scope happ huser hscope => simp [refreshRefusal?, happ, huser, hscope]

-- ----- Refusals

/-- The request is refused, or it is not and the key fails to sign. -/
inductive RefreshTokenRefused (s : Service K P) (now : Time) (user : User) (app : App)
    (scopes : List String) : IdentityError → Prop
  | request (h : RequestRefused user app scopes e) : RefreshTokenRefused s now user app scopes e
  | signing (h : Entitled user app scopes)
      (hsign : SigningKey.sign s.keys.privateKey
        (s.issue now (s.refreshGrant user app scopes)).result.signingInput = .error fault) :
    RefreshTokenRefused s now user app scopes (.crypto (.signingFailed fault))

variable {s : Service K P} {r : SignedToken} {tokens : TokenStore}

/-- An issued token is trusted and is stamped for the key, so only the key itself can fail. -/
theorem string_issue_eq_error_iff (hderived : s.keys.Derived) :
    s.string (s.issue now g).result = .error e ↔
      ∃ fault, SigningKey.sign s.keys.privateKey (s.issue now g).result.signingInput =
        .error fault ∧ e = .crypto (.signingFailed fault) := by
  have halg : (s.issue now g).result.header.alg = (SigningKey.algorithm s.keys.privateKey).name :=
    congrArg Algorithm.name hderived.algorithm
  have hrefusal := Token.refusal?_eq_none_iff.mpr ⟨rfl, halg⟩
  have hstring : s.string (s.issue now g).result =
      (s.issue now g).result.sign s.keys.privateKey := rfl
  rw [hstring, Token.sign, hrefusal]
  cases SigningKey.sign s.keys.privateKey (s.issue now g).result.signingInput <;> simp [eq_comm]

theorem store_fst_eq_error_iff_string :
    (s.store storageNow ⟨tokens, none⟩ t).1 = .error e ↔ s.string t = .error e := by
  rw [store_fst_eq_error_iff]
  simp

theorem newRefreshToken_eq_error_iff (hderived : s.keys.Derived) :
    (s.newRefreshToken now storageNow ⟨tokens, none⟩ user app scopes).1.result = .error e ↔
      s.RefreshTokenRefused now user app scopes e := by
  unfold newRefreshToken
  cases hrefusal : refreshRefusal? user app scopes with
  | some e' =>
    constructor
    · rintro ⟨⟩
      exact .request (refreshRefusal?_eq_some_iff.mp hrefusal)
    · intro h
      cases h with
      | request h =>
        rw [refreshRefusal?_eq_some_iff.mpr h] at hrefusal
        cases hrefusal
        rfl
      | signing h =>
        rw [refreshRefusal?_eq_none_iff.mpr h] at hrefusal
        cases hrefusal
  | none =>
    simp only [store_fst_eq_error_iff_string, string_issue_eq_error_iff hderived]
    constructor
    · rintro ⟨fault, hsign, rfl⟩
      exact .signing (refreshRefusal?_eq_none_iff.mp hrefusal) hsign
    · intro h
      cases h with
      | request h =>
        rw [refreshRefusal?_eq_some_iff.mpr h] at hrefusal
        cases hrefusal
      | signing _ hsign => exact ⟨_, hsign, rfl⟩

-- ----- What is handed out

/-- A refresh token for the request that the service reads back as it issued it. -/
structure HandsOut (s : Service K P) (now : Time) (user : User) (app : App) (scopes : List String)
    (r : SignedToken) : Prop extends s.SignsRefresh now user app scopes r where
  kind : r.token.claims.kind = .refresh
  offline : r.token.claims.hasScope offlineScope = true
  parses : ∃ t, (s.parse r.compact).result = .ok t ∧ t.header = r.token.header ∧
    t.claims = r.token.claims

theorem SignsRefresh.handsOut (h : s.SignsRefresh now user app scopes r)
    (hderived : s.keys.Derived) (hsound : SigningKey.Sound s.keys.privateKey)
    (hoffline : offlineScope ∈ scopes) : s.HandsOut now user app scopes r where
  toSignsRefresh := h
  kind := by
    rw [h.token]
    rfl
  offline := by
    rw [h.token]
    exact hasScope_joinScopes hoffline (by decide)
  parses := by
    obtain ⟨t, ht⟩ := reread_of_string hderived hsound h.string
    -- The token was issued for the key that is active when it is signed.
    refine ⟨t, ht.parsed, ?_, ?_⟩
    · rw [ht.header, h.token]
      rfl
    · rw [ht.claims, h.token]
      rfl

theorem SignsRefresh.expiry?_compact (h : s.SignsRefresh now user app scopes r) :
    expiry? r.compact = r.token.claims.exp := by
  obtain ⟨signature, hparse⟩ := h.parseUnverified
  rw [expiry?, hparse]

end Service

-- ----- Sessions

namespace Session

variable {s : Session K P}

theorem step_newRefreshToken_of_error
    (h : (s.service.newRefreshToken s.now s.storageNow s.storages.tokens user app
      scopes).1.result = .error e) (name : String) :
    (s.step (.newRefreshToken user app scopes name)).1 = s ∧
      (s.step (.newRefreshToken user app scopes name)).2.result = .error (.identity e) := by
  have htokens := s.service.newRefreshToken_snd s.now s.storageNow s.storages.tokens user app scopes
  rw [h] at htokens
  rw [step, conclude_of_error _ (result_ofAttempt_of_error h), htokens]
  exact ⟨rfl, rfl⟩

theorem step_newRefreshToken_of_ok
    (h : (s.service.newRefreshToken s.now s.storageNow s.storages.tokens user app
      scopes).1.result = .ok r) (name : String) :
    (s.step (.newRefreshToken user app scopes name)).1.storages.tokens =
        (s.service.newRefreshToken s.now s.storageNow s.storages.tokens user app scopes).2 ∧
      (s.step (.newRefreshToken user app scopes name)).2.result = .ok (.signed r) := by
  rw [step, conclude_of_ok _ (result_ofAttempt_eq_ok_iff.mpr h)]
  exact ⟨rfl, rfl⟩

end Session

-- ----- The outcome

namespace Service

/-- In whatever state the service and its token storage are, a request for a refresh
token is refused for the first reason against it, and nothing is stored or dropped.
Otherwise the refresh token is handed out and stored; the storage goes by any clock.
In a session a refusal leaves everything as it was. -/
theorem newRefreshToken_outcome {s : Service K P} (h : s.Reached)
    (hsound : SigningKey.Sound s.keys.privateKey) (now storageNow : Time) (tokens : TokenStore)
    (user : User) (app : App) (scopes : List String) :
    (∀ e, (s.newRefreshToken now storageNow ⟨tokens, none⟩ user app scopes).1.result = .error e ↔
      s.RefreshTokenRefused now user app scopes e) ∧
    (∀ e, s.RefreshTokenRefused now user app scopes e →
      (s.newRefreshToken now storageNow ⟨tokens, none⟩ user app scopes).2 = ⟨tokens, none⟩) ∧
    ((∀ e, ¬ s.RefreshTokenRefused now user app scopes e) → ∃ r after,
      (s.newRefreshToken now storageNow ⟨tokens, none⟩ user app scopes).1.result = .ok r ∧
      (s.newRefreshToken now storageNow ⟨tokens, none⟩ user app scopes).2 = ⟨after, none⟩ ∧
      s.HandsOut now user app scopes r ∧ tokens.Receives storageNow r after) ∧
    ∀ (session : Session K P) (name : String), session.service = s → session.now = now →
      session.storageNow = storageNow → session.storages.tokens = ⟨tokens, none⟩ →
      (∀ e, s.RefreshTokenRefused now user app scopes e →
        (session.step (.newRefreshToken user app scopes name)).1 = session ∧
        (session.step (.newRefreshToken user app scopes name)).2.result = .error (.identity e)) ∧
      ∀ r, (s.newRefreshToken now storageNow ⟨tokens, none⟩ user app scopes).1.result = .ok r →
        (session.step (.newRefreshToken user app scopes name)).1.storages.tokens =
          (s.newRefreshToken now storageNow ⟨tokens, none⟩ user app scopes).2 ∧
        (session.step (.newRefreshToken user app scopes name)).2.result = .ok (.signed r) := by
  have hderived := h.derived
  have hrefused e :
      (s.newRefreshToken now storageNow ⟨tokens, none⟩ user app scopes).1.result = .error e ↔
        s.RefreshTokenRefused now user app scopes e := newRefreshToken_eq_error_iff hderived
  have htokens := s.newRefreshToken_snd now storageNow ⟨tokens, none⟩ user app scopes
  refine ⟨hrefused, fun e he => ?_, fun hgranted => ?_, ?_⟩
  · rw [htokens, (hrefused e).mpr he]
  · cases hresult :
        (s.newRefreshToken now storageNow ⟨tokens, none⟩ user app scopes).1.result with
    | error e => exact absurd ((hrefused e).mp hresult) (hgranted e)
    | ok r =>
      obtain ⟨hrefusal, htoken, hstring, -⟩ := newRefreshToken_eq_ok_iff.mp hresult
      have hsigns : s.SignsRefresh now user app scopes r := ⟨htoken, hstring⟩
      have hoffline := (refreshRefusal?_eq_none_iff.mp hrefusal).offline
      rw [hresult] at htokens
      exact ⟨r, _, rfl, htokens, hsigns.handsOut hderived hsound hoffline,
        TokenStore.receives_save hsigns.expiry?_compact⟩
  · rintro session name rfl rfl rfl hstart
    rw [← hstart]
    refine ⟨fun e he => Session.step_newRefreshToken_of_error ?_ name,
      fun r hresult => Session.step_newRefreshToken_of_ok hresult name⟩
    rw [hstart]
    exact (hrefused e).mpr he

-- ----- A storage with a clock of its own

open Session (firstKey firstTime offlineApp offlineSession offlineUser)

theorem reached_offlineSession : offlineSession.service.Reached :=
  ⟨{}, firstKey, offlineSession, [], new_eq_ok_iff.mpr ⟨by decide, rfl⟩, rfl⟩

/-- An unreadable token, which never expires, and one that has expired for the storage. -/
def agedStore : TokenStore := ⟨[⟨[120], none⟩, ⟨[121], some 59⟩]⟩

def agedTime : Time := ⟨60, by decide⟩

theorem entitled_offline : Entitled offlineUser offlineApp [offlineScope] :=
  ⟨rfl, rfl, rfl, List.mem_singleton_self _⟩

theorem not_refreshTokenRefused_offline (e : IdentityError) :
    ¬ offlineSession.service.RefreshTokenRefused firstTime offlineUser offlineApp [offlineScope]
      e := by
  intro h
  cases h with
  | request h =>
    have hsome := refreshRefusal?_eq_some_iff.mpr h
    rw [refreshRefusal?_eq_none_iff.mpr entitled_offline] at hsome
    cases hsome
  | signing _ hsign =>
    have hok : SigningKey.sign firstKey firstKey.message = .ok firstKey.signature := if_pos rfl
    cases hok.symm.trans hsign

theorem newRefreshToken_outcome_offline :
    (∃ r after, (offlineSession.service.newRefreshToken firstTime agedTime ⟨agedStore, none⟩
        offlineUser offlineApp [offlineScope]).1.result = .ok r ∧
      (offlineSession.service.newRefreshToken firstTime agedTime ⟨agedStore, none⟩ offlineUser
        offlineApp [offlineScope]).2 = ⟨after, none⟩ ∧
      r.token.claims.kind = .refresh ∧ ⟨r.compact, r.token.claims.exp⟩ ∈ after.entries ∧
      ⟨[120], none⟩ ∈ after.entries ∧ ⟨[121], some 59⟩ ∉ after.entries) ∧
    (offlineSession.service.newRefreshToken firstTime agedTime ⟨agedStore, none⟩ offlineUser
      offlineApp []).2 = ⟨agedStore, none⟩ ∧
    (offlineSession.step (.newRefreshToken offlineUser offlineApp [] "a")).1 = offlineSession ∧
    (offlineSession.step (.newRefreshToken offlineUser offlineApp [] "a")).2.result =
      .error (.identity .invalidOfflineScope) := by
  have hsound : SigningKey.Sound offlineSession.service.keys.privateKey := RecordedKey.sound _
  obtain ⟨-, -, hgranted, -⟩ := newRefreshToken_outcome reached_offlineSession hsound firstTime
    agedTime agedStore offlineUser offlineApp [offlineScope]
  obtain ⟨-, hkept, -, -⟩ := newRefreshToken_outcome reached_offlineSession hsound firstTime
    agedTime agedStore offlineUser offlineApp []
  obtain ⟨-, -, -, hsession⟩ := newRefreshToken_outcome reached_offlineSession hsound firstTime
    firstTime .empty offlineUser offlineApp []
  obtain ⟨r, after, hresult, hafter, hhands, hreceives⟩ := hgranted not_refreshTokenRefused_offline
  have hother : ∀ e ∈ agedStore.entries, e.compact ≠ r.compact := by
    intro e he hcompact
    obtain ⟨t, hparse, -⟩ := hhands.parses
    rw [← hcompact] at hparse
    simp only [agedStore, List.mem_cons, List.not_mem_nil, or_false] at he
    rcases he with rfl | rfl <;> cases hparse
  have hrefused (s : Service RecordedKey RecordedKey) (now : Time) :
      s.RefreshTokenRefused now offlineUser offlineApp [] .invalidOfflineScope :=
    .request (.scope ⟨rfl, rfl⟩ rfl List.not_mem_nil)
  refine ⟨⟨r, after, hresult, hafter, hhands.kind, (hreceives.mem_iff _).mpr (.inl rfl), ?_, ?_⟩,
    hkept _ (hrefused _ _), (hsession offlineSession "a" rfl rfl rfl rfl).1 _ (hrefused _ _)⟩
  · refine (hreceives.mem_iff _).mpr (.inr ⟨hother _ List.mem_cons_self, List.mem_cons_self, ?_⟩)
    rintro ⟨exp, hexp, -⟩
    cases hexp
  · intro hmem
    rcases (hreceives.mem_iff _).mp hmem with hnew | ⟨-, -, hfresh⟩
    · exact hother _ (List.mem_cons_of_mem _ List.mem_cons_self) (congrArg StoredToken.compact hnew)
    · exact hfresh ⟨59, rfl, by decide⟩

end Service

end IdentityProvider
