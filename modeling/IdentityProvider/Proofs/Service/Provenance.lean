import IdentityProvider.Proofs.Service.ActiveKey
import IdentityProvider.Proofs.Service.Presentation
import Mathlib.Data.List.Induction

/-!
# Where tokens come from

`tokens_have_origin`: however a service and its tokens are used, each token that
was handed out goes back to one use (`Origin`). A verified token was parsed from
a compact form that the key active then accepts, a fresh one was issued, and one
that was only decoded never becomes anything else: whatever needs a trusted
token refuses it (`Unusable`).
-/

namespace IdentityProvider

-- ----- Tokens that are not trusted

theorem Token.isTrusted_of_unverified {t : Token} (h : t.trust = .unverified) :
    t.isTrusted = false := by
  simp [isTrusted, h]

theorem Policy.validate_of_unverified {t : Token} (h : t.trust = .unverified) (p : Policy)
    (now : Time) : p.validate now t = .error (.tokenInvalid .neverVerified) := by
  simp [validate, checks, firstFailure, Token.isTrusted_of_unverified h]

section
variable [VerifyingKey P] [SigningKey K P]

theorem Token.trust_of_parseUnverified {t : Token} (h : parseUnverified compact = .ok t) :
    t.trust = .unverified := by
  obtain ⟨message, hdecodes⟩ := parseUnverified_eq_ok_iff.mp h
  cases hdecodes
  rfl

theorem Token.sign_of_unverified {t : Token} (h : t.trust = .unverified) (key : K) :
    t.sign key = .error (.tokenInvalid .signingUnverified) := by
  simp [sign, refusal?, isTrusted_of_unverified h]

namespace Service

theorem string_of_unverified {t : Token} (h : t.trust = .unverified) (s : Service K P) :
    s.string t = .error (.tokenInvalid .signingUnverified) := by
  simp [string, Token.isTrusted_of_unverified h]

omit [VerifyingKey P] [SigningKey K P] in
theorem issueUnless_eq_ok_iff {s : Service K P} :
    (s.issueUnless now refusal g).result = .ok t ↔ refusal = none ∧ t = (s.issue now g).result := by
  cases refusal <;> simp [issueUnless, Attempt.fail, Logged.silent, eq_comm]

omit [VerifyingKey P] [SigningKey K P] in
theorem refreshToken_of_unverified {t : Token} (h : t.trust = .unverified) (s : Service K P)
    (now : Time) (app : String → Except StorageError App)
    (user : String → Except StorageError User) :
    (s.refreshToken now app user t).result = .error (.tokenInvalid .neverVerified) :=
  refreshToken_eq_error_iff.mpr (.invalid (Policy.validate_of_unverified h _ now))

end Service

/-- Whatever needs a trusted token refuses this one. -/
structure Unusable (K P : Type) [VerifyingKey P] [SigningKey K P] (t : Token) : Prop where
  string : ∀ s : Service K P, s.string t = .error (.tokenInvalid .signingUnverified)
  sign : ∀ key : K, t.sign key = .error (.tokenInvalid .signingUnverified)
  validate : ∀ now p, (Service.validate now t p).result = .error (.tokenInvalid .neverVerified)
  refreshToken : ∀ (s : Service K P) now app user,
    (s.refreshToken now app user t).result = .error (.tokenInvalid .neverVerified)

theorem unusable_of_unverified {t : Token} (h : t.trust = .unverified) : Unusable K P t where
  string := Service.string_of_unverified h
  sign := Token.sign_of_unverified h
  validate now p := by
    rw [Service.validate, Service.result_reported, Policy.validate_of_unverified h]
  refreshToken := Service.refreshToken_of_unverified h

end

-- ----- Uses

/-- What is done with a session: an operation of its service, or signing one of
its tokens with any key. -/
inductive Use (K : Type) where
  | operation (o : Operation K)
  | sign (token : String) (key : K) (name : String)

/-- The token that is put to use. -/
def Use.token? : Use K → Option String
  | .operation (.produce (.refreshed token) _) => some token
  | .operation (.string token _) => some token
  | .operation (.validate token _) => some token
  | .sign token _ _ => some token
  | _ => none

/-- The service issues a token. -/
def Production.Issues : Production → Prop
  | .access .. | .refreshed _ | .invite .. | .reset _ | .webCookie _ => True
  | .made .. | .parsed _ | .decoded _ => False

def Operation.Issues : Operation K → Prop
  | .produce what _ => what.Issues
  | .newRefreshToken .. => True
  | _ => False

namespace Session

variable [VerifyingKey P] [SigningKey K P]

def use (s : Session K P) : Use K → Session K P × Outcome Answer
  | .operation o => s.step o
  | .sign token key name =>
    s.conclude (s.withToken token fun t => ofAttempt (.silent (t.sign key))) fun c =>
      (s.nameCompact name c, .compact c)

/-- The session after some uses, one after the other. -/
def after (s : Session K P) (uses : List (Use K)) : Session K P :=
  uses.foldl (fun s u => (s.use u).1) s

theorem after_append_singleton (s : Session K P) (uses : List (Use K)) (u : Use K) :
    s.after (uses ++ [u]) = ((s.after uses).use u).1 :=
  List.foldl_concat _ s u uses

-- ----- Origins

/-- Parsing gives the token, which is what the compact form spells, and the
active key accepts the signature over the bytes before the last dot. -/
structure Verifies (s : Service K P) (compact message : Bytes) (t : Token) : Prop where
  parsed : (s.parse compact).result = .ok t
  decodes : Token.Decodes compact message { t with trust := .unverified }
  accepted : Token.Accepted s.keys.publicKey message t

inductive VerifiedBy (s : Session K P) : Use K → Token → Prop
  | parse (hpresents : s.Presents p compact) (h : Verifies s.service compact message t) :
    VerifiedBy s (.operation (.produce (.parsed p) name)) t

/-- The service issued the token for some grant, or somebody made it by hand. -/
inductive IssuedBy (s : Session K P) : Use K → Token → Prop
  | service (h : o.Issues) (g : Service.Grant) :
    IssuedBy s (.operation o) (s.service.issue s.now g).result
  | hand : IssuedBy s (.operation (.produce (.made choice kid claims) name))
    (.new choice kid claims)

inductive DecodedBy (s : Session K P) : Use K → Token → Prop
  | decode (hpresents : s.Presents p compact) (h : Token.parseUnverified compact = .ok t) :
    DecodedBy s (.operation (.produce (.decoded p) name)) t

/-- The use that a token of its trust comes from. -/
def Origin (s : Session K P) (u : Use K) (t : Token) : Prop :=
  match t.trust with
  | .fresh => s.IssuedBy u t
  | .verified => s.VerifiedBy u t
  | .unverified => s.DecodedBy u t

-- ----- What a use hands out

omit [SigningKey K P] in
theorem origin_issue {o : Operation K} (h : o.Issues) {s : Session K P} {g : Service.Grant} :
    s.Origin (.operation o) (s.service.issue s.now g).result :=
  IssuedBy.service h g

omit [SigningKey K P] in
theorem verifies_of_parse {s : Service K P} (h : (s.parse compact).result = .ok t) :
    t.trust = .verified ∧ ∃ message, Verifies s compact message t := by
  obtain ⟨message, u, hdecodes, haccepted, -, rfl⟩ :=
    Token.parseAndVerify_eq_ok_iff.mp (Service.parse_eq_ok_iff.mp h)
  have hu : { u with trust := .unverified } = u := by
    cases hdecodes
    rfl
  refine ⟨rfl, message, h, ?_, haccepted.algorithm, haccepted.signed⟩
  rw [← hu] at hdecodes
  exact hdecodes

omit [SigningKey K P] in
theorem origin_of_produce {s : Session K P} (h : (s.produce what).result = .ok t)
    (name : String) : s.Origin (.operation (.produce what name)) t := by
  cases what with
  | access user app scopes =>
    obtain ⟨-, -, rfl⟩ := Service.newToken_eq_ok_iff.mp (result_ofAttempt_eq_ok_iff.mp h)
    exact origin_issue (by trivial)
  | refreshed token =>
    obtain ⟨t', -, h⟩ := withToken_eq_ok_iff.mp h
    obtain ⟨a, u, -, rfl⟩ := Service.refreshToken_eq_ok_iff.mp (result_ofAttempt_eq_ok_iff.mp h)
    exact origin_issue (by trivial)
  | invite email role =>
    obtain ⟨-, rfl⟩ := Service.issueUnless_eq_ok_iff.mp (result_ofAttempt_eq_ok_iff.mp h)
    exact origin_issue (by trivial)
  | reset userId =>
    obtain ⟨-, rfl⟩ := Service.issueUnless_eq_ok_iff.mp (result_ofAttempt_eq_ok_iff.mp h)
    exact origin_issue (by trivial)
  | webCookie user =>
    obtain ⟨-, rfl⟩ := Service.issueUnless_eq_ok_iff.mp (result_ofAttempt_eq_ok_iff.mp h)
    exact origin_issue (by trivial)
  | made choice kid claims =>
    cases h
    exact IssuedBy.hand
  | parsed p =>
    obtain ⟨compact, hpresents, h⟩ := withCompact_eq_ok_iff.mp h
    obtain ⟨htrust, message, hverifies⟩ := verifies_of_parse (result_ofAttempt_eq_ok_iff.mp h)
    rw [Origin, htrust]
    exact .parse hpresents hverifies
  | decoded p =>
    obtain ⟨compact, hpresents, h⟩ := withCompact_eq_ok_iff.mp h
    have hparse := result_ofAttempt_eq_ok_iff.mp h
    rw [Origin, Token.trust_of_parseUnverified hparse]
    exact .decode hpresents hparse

/-- An operation hands out one token at most, and puts it before the others. -/
theorem step_tokens (s : Session K P) (o : Operation K) :
    (s.step o).1.tokens = s.tokens ∨
      ∃ name t, (s.step o).1.tokens = (name, t) :: s.tokens ∧ s.Origin (.operation o) t := by
  have heffect := s.effect_step o
  generalize (s.step o).1 = s' at heffect ⊢
  cases heffect with
  | token h => exact .inr ⟨_, _, rfl, origin_of_produce h _⟩
  | refreshToken h =>
    obtain ⟨-, hissued, -⟩ := Service.newRefreshToken_eq_ok_iff.mp h
    refine .inr ⟨_, _, rfl, ?_⟩
    rw [hissued]
    exact origin_issue (by trivial)
  | _ => exact .inl rfl

theorem tokens_use_produce {s : Session K P} (h : (s.produce what).result = .ok t)
    (name : String) :
    (s.use (.operation (.produce what name))).1.tokens = (name, t) :: s.tokens := by
  rw [use, step, conclude, h]
  rfl

theorem use_tokens (s : Session K P) (u : Use K) :
    (s.use u).1.tokens = s.tokens ∨
      ∃ name t, (s.use u).1.tokens = (name, t) :: s.tokens ∧ s.Origin u t := by
  cases u with
  | operation o => exact s.step_tokens o
  | sign token key name =>
    rw [use]
    unfold conclude
    split <;> exact .inl rfl

theorem tokens_suffix_use (s : Session K P) (u : Use K) : s.tokens <:+ (s.use u).1.tokens := by
  rcases s.use_tokens u with h | ⟨name, t, h, -⟩
  · simp only [h, List.suffix_rfl]
  · simp only [h, List.suffix_cons]

theorem origin_of_mem_after {start : Session K P} {uses : List (Use K)}
    (h : (name, t) ∈ (start.after uses).tokens) :
    (name, t) ∈ start.tokens ∨
      ∃ before u later, uses = before ++ u :: later ∧ (start.after before).Origin u t := by
  induction uses using List.reverseRecOn with
  | nil => exact .inl h
  | append_singleton uses u ih =>
    have hrest : (name, t) ∈ (start.after uses).tokens → (name, t) ∈ start.tokens ∨
        ∃ before v later, uses ++ [u] = before ++ v :: later ∧
          (start.after before).Origin v t := by
      intro hold
      rcases ih hold with hstart | ⟨before, v, later, rfl, horigin⟩
      · exact .inl hstart
      · exact .inr ⟨before, v, later ++ [u], by simp, horigin⟩
    rw [after_append_singleton] at h
    rcases (start.after uses).use_tokens u with htokens | ⟨name', t', htokens, horigin⟩
    · rw [htokens] at h
      exact hrest h
    · rw [htokens] at h
      rcases List.mem_cons.mp h with hnew | hold
      · cases hnew
        exact .inr ⟨uses, u, [], rfl, horigin⟩
      · exact hrest hold

-- ----- Using a token that is not trusted

/-- The use is refused and changes nothing. -/
structure Refuses (s : Session K P) (u : Use K) : Prop where
  session : (s.use u).1 = s
  result : ∃ fault, (s.use u).2.result = .error (.identity (.tokenInvalid fault))

theorem refuses_of_error {s : Session K P} {u : Use K} {f : Token → Attempt α}
    {next : α → Session K P × Answer}
    (huse : s.use u = s.conclude (s.withToken name fun t => ofAttempt (f t)) next)
    (hget : s.tokens.get? name = some t) (h : (f t).result = .error (.tokenInvalid fault)) :
    s.Refuses u := by
  have hresult : (s.withToken name fun t => ofAttempt (f t)).result =
      .error (.identity (.tokenInvalid fault)) := by
    simp only [withToken, hget, result_ofAttempt_of_error h]
  unfold conclude at huse
  rw [hresult] at huse
  exact ⟨congrArg Prod.fst huse, fault, congrArg (·.2.result) huse⟩

theorem refuses_of_unverified {s : Session K P} {u : Use K} (hu : u.token? = some name)
    (hget : s.tokens.get? name = some t) (htrust : t.trust = .unverified) : s.Refuses u := by
  have hunusable : Unusable K P t := unusable_of_unverified htrust
  unfold Use.token? at hu
  split at hu
  · cases hu
    exact refuses_of_error rfl hget (hunusable.refreshToken _ _ _ _)
  · cases hu
    exact refuses_of_error rfl hget (hunusable.string _)
  · cases hu
    exact refuses_of_error rfl hget (hunusable.validate _ _)
  · cases hu
    exact refuses_of_error rfl hget (hunusable.sign _)
  · cases hu

-- ----- Whole sessions

/-- Each token of a session that began without any comes from one of its uses.
No use changes a token that is there, and whatever puts one to use that is not
trusted is refused; outside of sessions such a token is no better. -/
theorem tokens_have_origin (start : Session K P) (hstart : start.tokens = [])
    (uses : List (Use K)) :
    (∀ name t, (name, t) ∈ (start.after uses).tokens → ∃ before u later,
      uses = before ++ u :: later ∧ (start.after before).Origin u t) ∧
    (∀ (s : Session K P) (u : Use K), s.tokens <:+ (s.use u).1.tokens ∧
      ∀ name t, u.token? = some name → s.tokens.get? name = some t → t.trust = .unverified →
        s.Refuses u) ∧
    ∀ t : Token, t.trust = .unverified → Unusable K P t := by
  refine ⟨fun name t h => ?_, fun s u => ⟨s.tokens_suffix_use u, ?_⟩, ?_⟩
  · rcases origin_of_mem_after h with hmem | horigin
    · rw [hstart] at hmem
      cases hmem
    · exact horigin
  · intro name t hu hget htrust
    exact refuses_of_unverified hu hget htrust
  · intro t htrust
    exact unusable_of_unverified htrust

-- ----- A session with one token

def sampleSession : Session RecordedKey RecordedKey :=
  ⟨Service.sampleService, .epoch, .epoch, .empty, [], []⟩

open Service (verifiedSample)

def parseSample : Use RecordedKey :=
  .operation (.produce (.parsed (.text verifiedSample.compactForm)) "t")

theorem tokens_after_parseSample :
    (sampleSession.after [parseSample]).tokens = [("t", verifiedSample)] := by
  have hproduce : (sampleSession.produce (.parsed (.text verifiedSample.compactForm))).result =
      .ok verifiedSample := result_ofAttempt_eq_ok_iff.mpr Service.parse_verifiedSample
  rw [after, List.foldl_cons, List.foldl_nil, parseSample, tokens_use_produce hproduce]
  rfl

theorem tokens_have_origin_parseSample :
    (∃ before u later, [parseSample] = before ++ u :: later ∧
      (sampleSession.after before).VerifiedBy u verifiedSample) ∧
    { sampleSession with tokens := [("u", { verifiedSample with trust := .unverified })] }.Refuses
      (.operation (.string "u" "c")) ∧
    Unusable RecordedKey RecordedKey { verifiedSample with trust := .unverified } := by
  obtain ⟨horigin, huse, hunusable⟩ := tokens_have_origin sampleSession rfl [parseSample]
  refine ⟨horigin "t" verifiedSample ?_, (huse _ _).2 "u" _ rfl rfl rfl, hunusable _ rfl⟩
  rw [tokens_after_parseSample]
  exact List.mem_singleton_self _

end Session

end IdentityProvider
