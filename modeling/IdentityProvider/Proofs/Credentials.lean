import IdentityProvider.Credentials

/-!
# Who is let in

`verify_outcome`: a user is let in whose name was found, who is active, and whose
own hash the password matches (`Admits`). Whoever is not is told the same,
unless the storage is out of order. What becomes of the check of the made-up
hash never matters (`verify_dummy`).
-/

namespace IdentityProvider.CredentialVerifier

variable (v : CredentialVerifier) (find : String → Except StorageError User)
  (username password : String)

structure Admits (user : User) : Prop where
  found : find username = .ok user
  hasHash : user.passwordHash ≠ ""
  active : user.active = true
  matched : v.hasher.matchesHash (Bytes.ofString password) (Bytes.ofString user.passwordHash) =
    .ok true

/-- The storage cannot say whether there is such a user. -/
def Outage (reason : String) : Prop := find username = .error (.backend reason)

structure Rejects (e : IdentityError) : Prop where
  result : (v.verify find username password).result = .error e
  noOutage : ∀ reason, ¬ Outage find username reason

-- ----- Checks

theorem matched_checks_iff {password : Bytes} {user : User} :
    (v.checks password (some user)).matched = true ↔
      user.passwordHash ≠ "" ∧
        v.hasher.matchesHash password (Bytes.ofString user.passwordHash) = .ok true := by
  unfold checks
  by_cases hempty : user.passwordHash = ""
  · simp [hempty, Checks.matched]
  · cases hcheck : v.hasher.matchesHash password (Bytes.ofString user.passwordHash) <;>
      simp [hempty, hcheck, Checks.matched]

-- ----- The made-up hash

theorem own_checks (dummy password : Bytes) (user : Option User) :
    (checks { v with dummy } password user).own = (v.checks password user).own := by
  cases user with
  | none => rfl
  | some user =>
    by_cases hempty : user.passwordHash = ""
    · simp [checks, hempty]
    · cases hcheck : v.hasher.matchesHash password (Bytes.ofString user.passwordHash) <;>
        simp [checks, hempty, hcheck]

theorem judge_congr {c c' : Checks} (h : c.own = c'.own) (user : Option User) :
    judge user c = judge user c' := by
  have hmatched : c.matched = c'.matched := by rw [Checks.matched, Checks.matched, h]
  have hremarks (user : User) : remarks user c = remarks user c' := by rw [remarks, remarks, h]
  cases user with
  | none => rfl
  | some user => simp only [judge, hmatched, hremarks]

/-- Neither the result nor the log tells what the made-up hash is. -/
theorem verify_dummy (dummy : Bytes) :
    verify { v with dummy } find username password = v.verify find username password := by
  unfold verify
  cases lookUp (find username) with
  | error e => rfl
  | ok user => exact judge_congr (own_checks v dummy _ user) user

-- ----- Outcomes

variable {find username}

theorem verify_of_found {user : User} (h : find username = .ok user) :
    (v.verify find username password).result =
      if (v.checks (Bytes.ofString password) (some user)).matched && user.active then .ok user
      else .error .invalidCredentials := by
  simp only [verify, h, lookUp, judge]
  split <;> rfl

theorem verify_of_notFound {what : String} (h : find username = .error (.notFound what)) :
    (v.verify find username password).result = .error .invalidCredentials := by
  simp only [verify, h, lookUp, judge]

theorem verify_of_outage {reason : String} (h : Outage find username reason) :
    (v.verify find username password).result = .error (.storage (.backend reason)) := by
  rw [Outage] at h
  simp only [verify, h, lookUp, Logged.silent]

theorem admits_iff_of_found {user found : User} (h : find username = .ok found) :
    v.Admits find username password user ↔
      found = user ∧
        ((v.checks (Bytes.ofString password) (some found)).matched && found.active) = true := by
  rw [Bool.and_eq_true, matched_checks_iff]
  constructor
  · rintro ⟨hfound, hhash, hactive, hmatched⟩
    obtain rfl : found = user := Except.ok.inj (h.symm.trans hfound)
    exact ⟨rfl, ⟨hhash, hmatched⟩, hactive⟩
  · rintro ⟨rfl, ⟨hhash, hmatched⟩, hactive⟩
    exact ⟨h, hhash, hactive, hmatched⟩

theorem not_admits_of_error {e : StorageError} (h : find username = .error e) (user : User) :
    ¬ v.Admits find username password user := by
  rintro ⟨hfound, -⟩
  rw [h] at hfound
  cases hfound

theorem verify_eq_ok_iff {user : User} :
    (v.verify find username password).result = .ok user ↔
      v.Admits find username password user := by
  cases hfind : find username with
  | ok found =>
    rw [verify_of_found v password hfind, admits_iff_of_found v password hfind]
    split <;> simp [*]
  | error e =>
    have hnone := not_admits_of_error v password hfind user
    cases e with
    | notFound what => simp [verify_of_notFound v password hfind, hnone]
    | backend reason => simp [verify_of_outage v password hfind, hnone]

theorem verify_eq_error_iff {e : IdentityError} :
    (v.verify find username password).result = .error e ↔
      (∃ reason, Outage find username reason ∧ e = .storage (.backend reason)) ∨
        (∀ reason, ¬ Outage find username reason) ∧
          (∀ user, ¬ v.Admits find username password user) ∧ e = .invalidCredentials := by
  cases hfind : find username with
  | ok found =>
    simp only [Outage, hfind, admits_iff_of_found v password hfind,
      verify_of_found v password hfind]
    split <;> simp [*, eq_comm]
  | error e =>
    have hnone := not_admits_of_error v password hfind
    cases e with
    | notFound what => simp [verify_of_notFound v password hfind, hnone, Outage, hfind, eq_comm]
    | backend reason => simp [verify_of_outage v password hfind, hnone, Outage, hfind, eq_comm]

/-- A rejection says nothing of what was found, or of what was found wrong with it. -/
theorem Rejects.eq_invalidCredentials {v : CredentialVerifier} {password : String}
    {e : IdentityError} (h : v.Rejects find username password e) : e = .invalidCredentials := by
  rcases (verify_eq_error_iff v password).mp h.result with ⟨reason, houtage, -⟩ | ⟨-, -, he⟩
  · exact absurd houtage (h.noOutage reason)
  · exact he

theorem verify_outcome (v : CredentialVerifier) (find : String → Except StorageError User)
    (username password : String) :
    (∀ user, (v.verify find username password).result = .ok user ↔
      v.Admits find username password user) ∧
    (∀ e, (v.verify find username password).result = .error (.storage e) ↔
      ∃ reason, e = .backend reason ∧ Outage find username reason) ∧
    ((v.verify find username password).result = .error .invalidCredentials ↔
      (∀ user, ¬ v.Admits find username password user) ∧
        ∀ reason, ¬ Outage find username reason) ∧
    ∀ e, v.Rejects find username password e →
      ∀ (v' : CredentialVerifier) (find' : String → Except StorageError User)
        (username' password' : String) (e' : IdentityError),
        v'.Rejects find' username' password' e' →
          e = e' ∧ PublicError.ofError e = PublicError.ofError e' := by
  refine ⟨fun user => verify_eq_ok_iff v password, fun e => ?_, ?_, ?_⟩
  · rw [verify_eq_error_iff]
    simp [and_comm]
  · rw [verify_eq_error_iff]
    simp [and_comm]
  · intro e h v' find' username' password' e' h'
    rw [h.eq_invalidCredentials, h'.eq_invalidCredentials]
    exact ⟨rfl, rfl⟩

end IdentityProvider.CredentialVerifier
