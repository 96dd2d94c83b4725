import IdentityProvider.Proofs.Chain
import IdentityProvider.Proofs.Storage.Lookups
import IdentityProvider.Service.Session

/-!
# What an operation does to a session

An operation changes a session in one of a few ways, or not at all (`effect_step`). A request
that fails has done nothing: the token storage is what it was (`newRefreshToken_snd`,
`revokeRefreshToken_snd`).
-/

namespace IdentityProvider

variable [VerifyingKey P] [SigningKey K P]

-- ----- The token storage

namespace Service

variable {s : Service K P} {tokens : Storage TokenStore}

theorem store_fst_eq_ok_iff : (s.store storageNow tokens t).1 = .ok r ↔
    r.token = t ∧ s.string t = .ok r.compact ∧ tokens.outage = none := by
  obtain ⟨token, compact⟩ := r
  unfold store Storage.update
  cases s.string t <;> cases tokens.outage <;> simp [eq_comm]

theorem store_fst_eq_error_iff : (s.store storageNow tokens t).1 = .error e ↔
    s.string t = .error e ∨
      ∃ compact f, s.string t = .ok compact ∧ tokens.outage = some f ∧ e = .savingToken f := by
  unfold store Storage.update
  cases s.string t <;> cases tokens.outage <;> simp [eq_comm]

theorem store_snd (s : Service K P) (storageNow : Time) (tokens : Storage TokenStore) (t : Token) :
    (s.store storageNow tokens t).2 = match (s.store storageNow tokens t).1 with
      | .ok r => { tokens with content := tokens.content.save storageNow r.compact }
      | .error _ => tokens := by
  unfold store Storage.update
  cases s.string t <;> cases tokens.outage <;> rfl

theorem newRefreshToken_eq_ok_iff :
    (s.newRefreshToken now storageNow tokens user app scopes).1.result = .ok r ↔
      refreshRefusal? user app scopes = none ∧
      r.token = (s.issue now (s.refreshGrant user app scopes)).result ∧
      s.string r.token = .ok r.compact ∧ tokens.outage = none := by
  unfold newRefreshToken
  cases refreshRefusal? user app scopes with
  | some e => simp [Attempt.fail, Logged.silent]
  | none =>
    simp only [store_fst_eq_ok_iff, true_and]
    refine and_congr_right fun htoken => ?_
    rw [htoken]

/-- Only what was handed out has been stored, and else the storage is what it was. -/
theorem newRefreshToken_snd (s : Service K P) (now storageNow : Time)
    (tokens : Storage TokenStore) (user : User) (app : App) (scopes : List String) :
    (s.newRefreshToken now storageNow tokens user app scopes).2 =
      match (s.newRefreshToken now storageNow tokens user app scopes).1.result with
      | .ok r => { tokens with content := tokens.content.save storageNow r.compact }
      | .error _ => tokens := by
  unfold newRefreshToken
  cases refreshRefusal? user app scopes with
  | some e => rfl
  | none => exact s.store_snd storageNow tokens _

omit [VerifyingKey P] [SigningKey K P] in
theorem revokeRefreshToken_eq_ok_iff :
    (revokeRefreshToken tokens compact).1.result = .ok u ↔ tokens.outage = none := by
  unfold revokeRefreshToken Storage.update
  cases tokens.outage <;> simp [Attempt.fail, Logged.silent]

omit [VerifyingKey P] [SigningKey K P] in
theorem revokeRefreshToken_snd (tokens : Storage TokenStore) (compact : Bytes) :
    (revokeRefreshToken tokens compact).2 =
      match (revokeRefreshToken tokens compact).1.result with
      | .ok _ => { tokens with content := tokens.content.delete compact }
      | .error _ => tokens := by
  unfold revokeRefreshToken Storage.update
  cases tokens.outage <;> rfl

end Service

namespace Session

variable {s : Session K P}

-- ----- Outcomes

/-- What is presented in full, or was handed out under a name. -/
inductive Presents (s : Session K P) : Presented → Bytes → Prop
  | text : Presents s (.text compact) compact
  | named (h : s.compacts.get? name = some compact) : Presents s (.named name) compact

omit [VerifyingKey P] [SigningKey K P] in
theorem compact?_eq_some_iff : s.compact? p = some compact ↔ s.Presents p compact := by
  constructor
  · intro h
    cases p with
    | text =>
      cases h
      exact .text
    | named name => exact .named h
  · rintro (_ | hget)
    · rfl
    · exact hget

omit [VerifyingKey P] [SigningKey K P] in
theorem Presents.unique (h : s.Presents p compact) (h' : s.Presents p compact') :
    compact = compact' := by
  rw [← compact?_eq_some_iff] at h h'
  exact Option.some.inj (h.symm.trans h')

omit [VerifyingKey P] [SigningKey K P] in
theorem result_ofAttempt_eq_ok_iff {a : Attempt α} {x : α} :
    (ofAttempt a).result = .ok x ↔ a.result = .ok x :=
  mapError_eq_ok_iff

omit [VerifyingKey P] [SigningKey K P] in
theorem result_ofAttempt_of_error {a : Attempt α} (h : a.result = .error e) :
    (ofAttempt a).result = .error (.identity e) :=
  congrArg (Except.mapError OperationError.identity) h

omit [VerifyingKey P] [SigningKey K P] in
theorem withToken_eq_ok_iff {f : Token → Outcome α} :
    (s.withToken name f).result = .ok x ↔
      ∃ t, s.tokens.get? name = some t ∧ (f t).result = .ok x := by
  unfold withToken
  cases s.tokens.get? name <;> simp [fail, Logged.silent]

omit [VerifyingKey P] [SigningKey K P] in
theorem withCompact_eq_ok_iff {f : Bytes → Outcome α} :
    (s.withCompact p f).result = .ok x ↔
      ∃ compact, s.Presents p compact ∧ (f compact).result = .ok x := by
  simp only [← compact?_eq_some_iff]
  unfold withCompact
  cases s.compact? p <;> simp [fail, Logged.silent]

omit [VerifyingKey P] [SigningKey K P] in
theorem conclude_of_ok {x : Outcome α} (next : α → Session K P × Answer) (h : x.result = .ok a) :
    s.conclude x next = ((next a).1, ⟨.ok (next a).2, x.events⟩) := by
  simp only [conclude, h]

omit [VerifyingKey P] [SigningKey K P] in
theorem conclude_of_error {x : Outcome α} (next : α → Session K P × Answer)
    (h : x.result = .error e) : s.conclude x next = (s, ⟨.error e, x.events⟩) := by
  simp only [conclude, h]

omit [VerifyingKey P] [SigningKey K P] in
theorem conclude_eq_ok_iff {x : Outcome α} {next : α → Session K P × Answer} :
    (s.conclude x next).2.result = .ok answer ↔ ∃ a, x.result = .ok a ∧ (next a).2 = answer := by
  unfold conclude
  cases x.result <;> simp

omit [VerifyingKey P] [SigningKey K P] in
/-- Without a result nothing changes. -/
theorem conclude_cases (s : Session K P) (o : Outcome α) (next : α → Session K P × Answer) :
    (s.conclude o next).1 = s ∨ ∃ a, o.result = .ok a ∧ (s.conclude o next).1 = (next a).1 := by
  unfold conclude
  cases o.result with
  | error e => exact .inl rfl
  | ok a => exact .inr ⟨a, rfl, rfl⟩

omit [VerifyingKey P] [SigningKey K P] in
theorem conclude_same (s : Session K P) (o : Outcome α) (answer : α → Answer) :
    (s.conclude o fun a => (s, answer a)).1 = s := by
  unfold conclude
  cases o.result <;> rfl

-- ----- Effects

/-- The session that an operation leaves behind. -/
inductive Effect (s : Session K P) : Operation K → Session K P → Prop
  | nothing : Effect s o s
  | token (h : (s.produce what).result = .ok t) : Effect s (.produce what name) (s.nameToken name t)
  | refreshToken (h : (s.service.newRefreshToken s.now s.storageNow s.storages.tokens user app
      scopes).1.result = .ok r) : Effect s (.newRefreshToken user app scopes name)
      (((s.setTokens { s.storages.tokens with
        content := s.storages.tokens.content.save s.storageNow r.compact }).nameToken name
          r.token).nameCompact name r.compact)
  | compact : Effect s (.string token name) (s.nameCompact name c)
  | revocation (hpresents : s.Presents p compact) (hup : s.storages.tokens.outage = none) :
    Effect s (.revoke p) (s.setTokens { s.storages.tokens with
      content := s.storages.tokens.content.delete compact })
  | rotation : Effect s (.setKey key) { s with service := (s.service.setKey key).result }
  | serviceClock (moved : Time) : Effect s o { s with now := moved }
  | storageClock (moved : Time) : Effect s o { s with storageNow := moved }
  | change : Effect s (.change c) { s with storages := s.storages.apply c }

theorem effect_setClock (s : Session K P) (o : Operation K) (clock : Clock) (moved : Time) :
    s.Effect o (s.setClock clock moved) := by
  cases clock with
  | service => exact .serviceClock moved
  | storage => exact .storageClock moved

theorem effect_newRefreshToken (s : Session K P) (user : User) (app : App) (scopes : List String)
    (name : String) : s.Effect (.newRefreshToken user app scopes name)
      (s.step (.newRefreshToken user app scopes name)).1 := by
  have htokens := s.service.newRefreshToken_snd s.now s.storageNow s.storages.tokens user app scopes
  rw [step]
  cases h : (s.service.newRefreshToken s.now s.storageNow s.storages.tokens user app
      scopes).1.result with
  | error e =>
    rw [h] at htokens
    rw [conclude_of_error _ (result_ofAttempt_of_error h), htokens]
    exact .nothing
  | ok r =>
    rw [h] at htokens
    rw [conclude_of_ok _ (result_ofAttempt_eq_ok_iff.mpr h), htokens]
    exact .refreshToken h

theorem effect_revoke (s : Session K P) (p : Presented) :
    s.Effect (.revoke p) (s.step (.revoke p)).1 := by
  rw [step]
  cases hcompact : s.compact? p with
  | none => exact .nothing
  | some compact =>
    have htokens := Service.revokeRefreshToken_snd s.storages.tokens compact
    cases h : (Service.revokeRefreshToken s.storages.tokens compact).1.result with
    | error e =>
      rw [h] at htokens
      simp only [conclude_of_error _ (result_ofAttempt_of_error h), htokens]
      exact .nothing
    | ok u =>
      rw [h] at htokens
      simp only [conclude_of_ok _ (result_ofAttempt_eq_ok_iff.mpr h), htokens]
      exact .revocation (compact?_eq_some_iff.mp hcompact)
        (Service.revokeRefreshToken_eq_ok_iff.mp h)

theorem effect_step (s : Session K P) (o : Operation K) : s.Effect o (s.step o).1 := by
  cases o with
  | produce what name =>
    rcases s.conclude_cases (s.produce what) fun t => (s.nameToken name t, .token t) with
      h | ⟨t, ht, h⟩
    · rw [step, h]
      exact .nothing
    · rw [step, h]
      exact .token ht
  | newRefreshToken user app scopes name => exact s.effect_newRefreshToken user app scopes name
  | string token name =>
    rw [step]
    unfold conclude
    split
    · exact .nothing
    · exact .compact
  | revoke p => exact s.effect_revoke p
  | isStored p =>
    rw [step, conclude_same]
    exact .nothing
  | validate token p =>
    rw [step, conclude_same]
    exact .nothing
  | setKey key => exact Effect.rotation
  | advance clock seconds =>
    rw [step]
    split
    · exact s.effect_setClock _ _ _
    · exact .nothing
  | setTime clock seconds => exact s.effect_setClock _ _ _
  | change c => exact .change

end Session

end IdentityProvider
