import IdentityProvider.Proofs.Chain
import IdentityProvider.Proofs.Storage.Lookups
import IdentityProvider.Proofs.Token.Scopes
import IdentityProvider.Proofs.Token.Signing
import IdentityProvider.Service

/-!
# What becomes of a refresh token

`refreshToken_outcome`: a refresh is refused for the first of seven reasons that
applies (`RefreshRefused`), and otherwise gives an access token of the active
key. With the storages in memory that token is for the same user, app and
scopes as the refresh token.
-/

namespace IdentityProvider

theorem Time.toInt_toClaim (now : Time) : now.toClaim.toInt = now.seconds := by
  have hrange := now.inRange
  unfold earliest latest at hrange
  exact Int64.toInt_ofInt_of_le (by omega) (by omega)

theorem Time.eq_of_toClaim_eq {now now' : Time} (h : now.toClaim = now'.toClaim) : now = now' := by
  have hseconds : now.seconds = now'.seconds := by
    rw [← now.toInt_toClaim, ← now'.toInt_toClaim, h]
  cases now
  cases now'
  cases hseconds
  rfl

namespace Service

-- ----- Look-ups

theorem lookUp_eq_ok_iff : lookUp missing r = .ok a ↔ r = .ok a := by
  rcases r with (what | reason) | a' <;> simp [lookUp]

theorem lookUp_eq_error_iff : lookUp missing r = .error e ↔
    (∃ what, r = .error (.notFound what) ∧ e = missing) ∨
      ∃ reason, r = .error (.backend reason) ∧ e = .storage (.backend reason) := by
  rcases r with (what | reason) | a <;> simp [lookUp, eq_comm]

-- ----- Outcomes

section
variable (s : Service K P) (now : Time) (app : String → Except StorageError App)
  (user : String → Except StorageError User) (t : Token)

/-- The refresh token is a valid one of this issuer. -/
def RefreshValid : Prop :=
  Policy.validate { issuers := [s.issuer], kind := some .refresh } now t = .ok ()

/-- The refresh token is valid, and its app and user are there. -/
structure RefreshFor (a : App) (u : User) : Prop where
  valid : s.RefreshValid now t
  app : app t.claims.aud = .ok a
  user : user t.claims.sub = .ok u

structure RefreshGranted (a : App) (u : User) : Prop extends s.RefreshFor now app user t a u where
  appActive : a.active = true
  userActive : u.active = true

/-- The reasons against a refresh; each one is given where those before it do not apply. -/
inductive RefreshRefused : IdentityError → Prop
  | invalid (h : Policy.validate { issuers := [s.issuer], kind := some .refresh } now t = .error e) :
    RefreshRefused e
  | appMissing (hvalid : s.RefreshValid now t) (happ : app t.claims.aud = .error (.notFound what)) :
    RefreshRefused .invalidApp
  | appOutage (hvalid : s.RefreshValid now t) (happ : app t.claims.aud = .error (.backend reason)) :
    RefreshRefused (.storage (.backend reason))
  | userMissing (hvalid : s.RefreshValid now t) (happ : app t.claims.aud = .ok a)
      (huser : user t.claims.sub = .error (.notFound what)) : RefreshRefused .invalidUser
  | userOutage (hvalid : s.RefreshValid now t) (happ : app t.claims.aud = .ok a)
      (huser : user t.claims.sub = .error (.backend reason)) :
    RefreshRefused (.storage (.backend reason))
  | appInactive (hfor : s.RefreshFor now app user t a u) (happ : a.active = false) :
    RefreshRefused .invalidApp
  | userInactive (hfor : s.RefreshFor now app user t a u) (happ : a.active = true)
      (huser : u.active = false) : RefreshRefused .invalidUser

/-- A fresh access token of the active key for an app and a user. -/
structure IssuedAccess (a : App) (u : User) (scopes : List String) (t : Token) : Prop where
  trust : t.trust = .fresh
  header : t.header = .new (.only s.keys.algorithm) s.keys.keyId
  kid : t.claims.kid = s.keys.keyId
  kind : t.claims.kind = .access
  issuer : t.claims.iss = s.issuer
  subject : t.claims.sub = u.id
  audience : t.claims.aud = a.id
  issuedAt : ∃ iat, t.claims.iat = some iat ∧ iat.toInt = now.seconds
  scopes : t.claims.scopes = joinScopes scopes

end

variable {s : Service K P} {now : Time} {app : String → Except StorageError App}
  {user : String → Except StorageError User} {t : Token}

theorem refreshParties_eq_ok_iff :
    s.refreshParties now app user t = .ok (a, u) ↔ s.RefreshFor now app user t a u := by
  simp only [refreshParties, bind_eq_ok_iff, lookUp_eq_ok_iff, Except.ok.injEq, Prod.mk.injEq]
  constructor
  · rintro ⟨⟨⟩, hvalid, a', happ, u', huser, rfl, rfl⟩
    exact ⟨hvalid, happ, huser⟩
  · rintro ⟨hvalid, happ, huser⟩
    exact ⟨(), hvalid, a, happ, u, huser, rfl, rfl⟩

theorem newToken_eq_ok_iff : (s.newToken now u a scopes).result = .ok t ↔
    a.active = true ∧ u.active = true ∧ t = (s.issue now (s.accessGrant u a scopes)).result := by
  cases ha : a.active <;> cases hu : u.active <;>
    simp [newToken, accessRefusal?, issueUnless, ha, hu, Attempt.fail, Logged.silent, eq_comm]

theorem newToken_eq_error_iff : (s.newToken now u a scopes).result = .error e ↔
    a.active = false ∧ e = .invalidApp ∨
      a.active = true ∧ u.active = false ∧ e = .invalidUser := by
  cases ha : a.active <;> cases hu : u.active <;>
    simp [newToken, accessRefusal?, issueUnless, ha, hu, Attempt.fail, Logged.silent, eq_comm]

theorem result_refreshToken : (s.refreshToken now app user t).result =
    s.refreshParties now app user t >>= fun parties =>
      (s.newToken now parties.2 parties.1 t.claims.scopeList).result := by
  unfold refreshToken
  cases s.refreshParties now app user t <;> rfl

theorem refreshToken_eq_ok_iff : (s.refreshToken now app user t).result = .ok t' ↔
    ∃ a u, s.RefreshGranted now app user t a u ∧
      t' = (s.issue now (s.accessGrant u a t.claims.scopeList)).result := by
  simp only [result_refreshToken, bind_eq_ok_iff, Prod.exists, refreshParties_eq_ok_iff,
    newToken_eq_ok_iff]
  refine exists_congr fun a => exists_congr fun u => ⟨?_, ?_⟩
  · rintro ⟨hfor, happ, huser, rfl⟩
    exact ⟨⟨hfor, happ, huser⟩, rfl⟩
  · rintro ⟨⟨hfor, happ, huser⟩, rfl⟩
    exact ⟨hfor, happ, huser, rfl⟩

theorem refreshParties_eq_error_iff : s.refreshParties now app user t = .error e ↔
    Policy.validate { issuers := [s.issuer], kind := some .refresh } now t = .error e ∨
      s.RefreshValid now t ∧ (lookUp .invalidApp (app t.claims.aud) = .error e ∨
        ∃ a, app t.claims.aud = .ok a ∧ lookUp .invalidUser (user t.claims.sub) = .error e) := by
  simp only [refreshParties, bind_eq_error_iff, lookUp_eq_ok_iff, reduceCtorEq, and_false,
    exists_false, or_false]
  constructor
  · rintro (hinvalid | ⟨⟨⟩, hvalid, happ | ⟨a, happ, huser⟩⟩)
    · exact .inl hinvalid
    · exact .inr ⟨hvalid, .inl happ⟩
    · exact .inr ⟨hvalid, .inr ⟨a, happ, huser⟩⟩
  · rintro (hinvalid | ⟨hvalid, happ | ⟨a, happ, huser⟩⟩)
    · exact .inl hinvalid
    · exact .inr ⟨(), hvalid, .inl happ⟩
    · exact .inr ⟨(), hvalid, .inr ⟨a, happ, huser⟩⟩

theorem refreshToken_eq_error_iff : (s.refreshToken now app user t).result = .error e ↔
    RefreshRefused s now app user t e := by
  simp only [result_refreshToken, bind_eq_error_iff, Prod.exists, refreshParties_eq_ok_iff,
    refreshParties_eq_error_iff, lookUp_eq_error_iff, newToken_eq_error_iff]
  constructor
  · rintro ((hinvalid | ⟨hvalid, (⟨what, happ, rfl⟩ | ⟨reason, happ, rfl⟩) |
      ⟨a, happ, ⟨what, huser, rfl⟩ | ⟨reason, huser, rfl⟩⟩⟩) |
      ⟨a, u, hfor, ⟨happ, rfl⟩ | ⟨happ, huser, rfl⟩⟩)
    · exact .invalid hinvalid
    · exact .appMissing hvalid happ
    · exact .appOutage hvalid happ
    · exact .userMissing hvalid happ huser
    · exact .userOutage hvalid happ huser
    · exact .appInactive hfor happ
    · exact .userInactive hfor happ huser
  · intro h
    cases h with
    | invalid hinvalid => exact .inl (.inl hinvalid)
    | appMissing hvalid happ => exact .inl (.inr ⟨hvalid, .inl (.inl ⟨_, happ, rfl⟩)⟩)
    | appOutage hvalid happ => exact .inl (.inr ⟨hvalid, .inl (.inr ⟨_, happ, rfl⟩)⟩)
    | userMissing hvalid happ huser =>
      exact .inl (.inr ⟨hvalid, .inr ⟨_, happ, .inl ⟨_, huser, rfl⟩⟩⟩)
    | userOutage hvalid happ huser =>
      exact .inl (.inr ⟨hvalid, .inr ⟨_, happ, .inr ⟨_, huser, rfl⟩⟩⟩)
    | appInactive hfor happ => exact .inr ⟨_, _, hfor, .inl ⟨happ, rfl⟩⟩
    | userInactive hfor happ huser => exact .inr ⟨_, _, hfor, .inr ⟨happ, huser, rfl⟩⟩

theorem issuedAccess_issue (s : Service K P) (now : Time) (a : App) (u : User)
    (scopes : List String) :
    s.IssuedAccess now a u scopes (s.issue now (s.accessGrant u a scopes)).result :=
  ⟨rfl, rfl, rfl, rfl, rfl, rfl, rfl, ⟨_, rfl, now.toInt_toClaim⟩, rfl⟩

theorem IssuedAccess.scopeList (h : s.IssuedAccess now a u t.claims.scopeList t') :
    t'.claims.scopeList = t.claims.scopeList := by
  rw [Claims.scopeList, h.scopes]
  exact scopeList_joinScopes_scopeList t.claims.scopes

theorem hasScope_congr {c c' : Claims} (h : c.scopeList = c'.scopeList) (scope : String) :
    c.hasScope scope = c'.hasScope scope :=
  congrArg (fun scopes => scopes.any (· = scope)) h

/-- A refresh is refused for the first reason against it. Without one it gives an
access token of the active key for the app and the user that were found; in
storages in memory, whatever was put into them, these are the app and the user
of the refresh token. Its scopes are the refresh token's. -/
theorem refreshToken_outcome (s : Service K P) (now : Time) (t : Token) :
    (∀ app user,
      (∀ e, (s.refreshToken now app user t).result = .error e ↔
        RefreshRefused s now app user t e) ∧
      ((∃ t', (s.refreshToken now app user t).result = .ok t') ↔
        ∃ a u, s.RefreshGranted now app user t a u) ∧
      ∀ t', (s.refreshToken now app user t).result = .ok t' →
        ∃ a u, s.RefreshGranted now app user t a u ∧
          s.IssuedAccess now a u t.claims.scopeList t') ∧
    ∀ (st : Storages) t', (s.refreshToken now st.app st.user t).result = .ok t' →
      t'.claims.sub = t.claims.sub ∧ t'.claims.aud = t.claims.aud ∧
      t'.claims.scopeList = t.claims.scopeList ∧
      ∀ scope, t'.claims.hasScope scope = t.claims.hasScope scope := by
  refine ⟨fun app user => ⟨fun e => refreshToken_eq_error_iff, ⟨?_, ?_⟩, ?_⟩, ?_⟩
  · rintro ⟨t', h⟩
    obtain ⟨a, u, hgranted, -⟩ := refreshToken_eq_ok_iff.mp h
    exact ⟨a, u, hgranted⟩
  · rintro ⟨a, u, hgranted⟩
    exact ⟨_, refreshToken_eq_ok_iff.mpr ⟨a, u, hgranted, rfl⟩⟩
  · intro t' h
    obtain ⟨a, u, hgranted, rfl⟩ := refreshToken_eq_ok_iff.mp h
    exact ⟨a, u, hgranted, issuedAccess_issue s now a u _⟩
  · intro st t' h
    obtain ⟨a, u, hgranted, rfl⟩ := refreshToken_eq_ok_iff.mp h
    have hissued := issuedAccess_issue s now a u t.claims.scopeList
    have hscopes := hissued.scopeList
    refine ⟨?_, ?_, hscopes, fun scope => hasScope_congr hscopes scope⟩
    · rw [hissued.subject, Storages.id_of_user hgranted.user]
    · rw [hissued.audience, Storages.id_of_app hgranted.app]

-- ----- A refresh in memory

def sampleService : Service RecordedKey RecordedKey := ⟨"identifo", {}, .ofKey .sample⟩

def sampleStorages : Storages :=
  [.insertUser (.new "user-1" "User"), .insertApp (.new "app-1")].foldl Storages.apply .empty

def sampleRefresh : Token :=
  .new (.only .es256) RecordedKey.sampleId
    { RecordedKey.sampleClaims with
      iss := "identifo"
      iat := some 0
      exp := some 60
      scopes := "offline  read"
      kind := .refresh }

theorem refreshGranted_sampleRefresh : sampleService.RefreshGranted .epoch sampleStorages.app
    sampleStorages.user sampleRefresh (.new "app-1") (.new "user-1" "User") :=
  ⟨⟨rfl, rfl, rfl⟩, rfl, rfl⟩

theorem refreshToken_outcome_sampleRefresh : ∃ t',
    (sampleService.refreshToken .epoch sampleStorages.app sampleStorages.user sampleRefresh).result =
      .ok t' ∧
    t'.claims.sub = "user-1" ∧ t'.claims.aud = "app-1" ∧
    t'.claims.scopeList = ["offline", "read"] := by
  obtain ⟨houtcome, hkept⟩ := refreshToken_outcome sampleService .epoch sampleRefresh
  obtain ⟨-, hok, -⟩ := houtcome sampleStorages.app sampleStorages.user
  obtain ⟨t', ht'⟩ := hok.mpr ⟨_, _, refreshGranted_sampleRefresh⟩
  obtain ⟨hsub, haud, hscopes, -⟩ := hkept sampleStorages t' ht'
  exact ⟨t', ht', hsub, haud, hscopes⟩

end Service

end IdentityProvider
