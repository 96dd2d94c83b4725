import IdentityProvider.Proofs.Token.Parsing
import IdentityProvider.Token.Policy
import Mathlib.Data.List.Forall2

/-!
# What validation answers

`validate_outcome`: validation gives the error of the first check that a token
does not pass (`FailsFirst`), and accepts a token that passes them all. Only two
checks look at the time, so a policy accepts a token from its issue to its
expiry or never, and a token that has expired once is expired under every
policy from then on.
-/

namespace IdentityProvider.Policy

-- ----- Checks

inductive Check where
  | trust
  | algorithm
  | expiry
  | issuedAt
  | audience
  | issuer
  | subject
  | kind
  deriving DecidableEq

namespace Check

/-- The order in which the checks are made. -/
def all : List Check :=
  [trust, algorithm, expiry, issuedAt, audience, issuer, subject, kind]

theorem mem_all (c : Check) : c ∈ all := by
  cases c <;> decide

/-- The checks that are made before this one. -/
def before (c : Check) : List Check := all.takeWhile (· ≠ c)

/-- The error for not passing the check. -/
def error (t : Token) : Check → IdentityError
  | trust => .tokenInvalid .neverVerified
  | algorithm => .tokenInvalid (.algorithmNotAllowed t.header.alg)
  | expiry => .noExpiration
  | issuedAt => .noIssuedAt
  | audience => .invalidAudience
  | issuer => .invalidIssuer
  | subject => .invalidSubject
  | kind => .tokenTypeMismatch

theorem error_inj {t : Token} {c d : Check} : c.error t = d.error t ↔ c = d := by
  cases c <;> cases d <;> simp [error]

end Check

section
variable (p : Policy) (now : Time) (t : Token)

/-- What a token has to be like at a time to pass a check. -/
def Passes : Check → Prop
  | .trust => t.trust = .fresh ∨ t.trust = .verified
  | .algorithm => t.header.alg = "ES256" ∨ t.header.alg = "RS256"
  | .expiry => ∃ exp, t.claims.exp = some exp ∧ now.seconds ≤ exp.toInt
  | .issuedAt => ∃ iat, t.claims.iat = some iat ∧ iat.toInt ≤ now.seconds
  | .audience => p.audiences = [] ∨ t.claims.aud ∈ p.audiences
  | .issuer => p.issuers = [] ∨ t.claims.iss ∈ p.issuers
  | .subject => p.userId = none ∨ p.userId = some "" ∨ p.userId = some t.claims.sub
  | .kind => p.kind = none ∨ p.kind = some t.claims.kind

/-- The token passes the checks before this one and not this one. -/
structure FailsFirst (c : Check) : Prop where
  before : ∀ d ∈ c.before, p.Passes now t d
  fails : ¬ p.Passes now t c

end

-- ----- Each check decides what it is about

theorem isTrusted_iff {t : Token} :
    t.isTrusted = true ↔ t.trust = .fresh ∨ t.trust = .verified := by
  simp [Token.isTrusted]

theorem isSome_algorithm?_iff {t : Token} :
    t.header.algorithm?.isSome = true ↔ t.header.alg = "ES256" ∨ t.header.alg = "RS256" := by
  have hnone : t.header.algorithm? = none ↔ t.header.alg ≠ "ES256" ∧ t.header.alg ≠ "RS256" :=
    Algorithm.ofName?_eq_none_iff
  rw [Option.isSome_iff_ne_none, ne_eq, hnone, not_and_or, not_not, not_not]

theorem any_decide_iff {x : Option α} {q : α → Prop} [DecidablePred q] :
    x.any (fun a => q a) = true ↔ ∃ a, x = some a ∧ q a := by
  cases x <;> simp

theorem admits_iff {allowed : List String} {s : String} :
    admits allowed s = true ↔ allowed = [] ∨ s ∈ allowed := by
  simp [admits]

theorem admitsUser_iff {p : Policy} {sub : String} :
    p.admitsUser sub = true ↔ p.userId = none ∨ p.userId = some "" ∨ p.userId = some sub := by
  unfold admitsUser
  cases p.userId with
  | none => simp
  | some id => simp [eq_comm (a := sub)]

theorem admitsKind_iff {p : Policy} {kind : TokenKind} :
    p.admitsKind kind = true ↔ p.kind = none ∨ p.kind = some kind := by
  unfold admitsKind
  cases p.kind with
  | none => simp
  | some k => simpa using eq_comm

/-- The judgements of a list of checks, each with its error. -/
def Judged (holds : Check → Prop) (error : Check → ε) (cs : List Check)
    (judgements : List (Bool × ε)) : Prop :=
  List.Forall₂ (fun c j => (j.1 = true ↔ holds c) ∧ j.2 = error c) cs judgements

theorem judged_checks (p : Policy) (now : Time) (t : Token) :
    Judged (p.Passes now t) (Check.error t) Check.all (p.checks now t) :=
  .cons ⟨isTrusted_iff, rfl⟩ <| .cons ⟨isSome_algorithm?_iff, rfl⟩ <|
    .cons ⟨any_decide_iff, rfl⟩ <| .cons ⟨any_decide_iff, rfl⟩ <| .cons ⟨admits_iff, rfl⟩ <|
    .cons ⟨admits_iff, rfl⟩ <| .cons ⟨admitsUser_iff, rfl⟩ <| .cons ⟨admitsKind_iff, rfl⟩ .nil

-- ----- The first failure

/-- What comes before a check in the longer list is the added check and what
comes before it in the rest, unless it is the added check itself. -/
theorem Judged.firstFailure_eq_error_iff {holds : Check → Prop} {error : Check → ε}
    (h : Judged holds error cs judgements) : firstFailure judgements = .error e ↔
      ∃ c ∈ cs, (∀ d ∈ cs.takeWhile (· ≠ c), holds d) ∧ ¬ holds c ∧ e = error c := by
  induction h with
  | nil => simp [firstFailure]
  | @cons c j cs judgements hj _ ih =>
    obtain ⟨passed, e'⟩ := j
    obtain ⟨hpassed, rfl⟩ := hj
    cases passed with
    | true =>
      have hc : holds c := hpassed.mp rfl
      -- The check that fails is another one, so this one counts among those before it.
      rw [firstFailure, if_pos rfl, ih]
      constructor
      · rintro ⟨d, hd, hbefore, hfails, he⟩
        have hne : c ≠ d := fun heq => hfails (heq ▸ hc)
        refine ⟨d, List.mem_cons_of_mem _ hd, ?_, hfails, he⟩
        simpa [List.takeWhile_cons, hne, hc] using hbefore
      · rintro ⟨d, hd, hbefore, hfails, he⟩
        have hne : c ≠ d := fun heq => hfails (heq ▸ hc)
        refine ⟨d, (List.mem_cons.mp hd).resolve_left hne.symm, ?_, hfails, he⟩
        simpa [List.takeWhile_cons, hne, hc] using hbefore
    | false =>
      have hc : ¬ holds c := fun hc => Bool.false_ne_true (hpassed.mpr hc)
      rw [firstFailure, if_neg Bool.false_ne_true, Except.error.injEq]
      constructor
      · rintro rfl
        exact ⟨c, List.mem_cons_self, by simp, hc, rfl⟩
      · rintro ⟨d, -, hbefore, -, rfl⟩
        by_cases heq : c = d
        · rw [heq]
        · refine absurd (hbefore c ?_) hc
          simp [heq]

theorem Judged.firstFailure_eq_ok_iff {holds : Check → Prop} {error : Check → ε}
    (h : Judged holds error cs judgements) :
    firstFailure judgements = .ok () ↔ ∀ c ∈ cs, holds c := by
  induction h with
  | nil => simp [firstFailure]
  | @cons c j cs judgements hj _ ih =>
    obtain ⟨passed, e⟩ := j
    cases passed <;> simp [firstFailure, ih, ← hj.1]

theorem failsFirst_iff {p : Policy} {c : Check} : p.FailsFirst now t c ↔
    (∀ d ∈ c.before, p.Passes now t d) ∧ ¬ p.Passes now t c :=
  ⟨fun h => ⟨h.before, h.fails⟩, fun h => ⟨h.1, h.2⟩⟩

theorem validate_eq_error_iff {p : Policy} : p.validate now t = .error e ↔
    ∃ c, p.FailsFirst now t c ∧ e = Check.error t c := by
  rw [validate, (judged_checks p now t).firstFailure_eq_error_iff]
  constructor
  · rintro ⟨c, -, hbefore, hfails, he⟩
    exact ⟨c, ⟨hbefore, hfails⟩, he⟩
  · rintro ⟨c, ⟨hbefore, hfails⟩, he⟩
    exact ⟨c, c.mem_all, hbefore, hfails, he⟩

theorem validate_eq_checkError_iff {p : Policy} {c : Check} :
    p.validate now t = .error (c.error t) ↔ p.FailsFirst now t c := by
  simp only [validate_eq_error_iff, Check.error_inj]
  constructor
  · rintro ⟨d, hd, rfl⟩
    exact hd
  · intro h
    exact ⟨c, h, rfl⟩

theorem failsFirst_expiry_iff {p : Policy} : p.FailsFirst now t .expiry ↔
    (p.Passes now t .trust ∧ p.Passes now t .algorithm) ∧ ¬ p.Passes now t .expiry := by
  have hbefore : Check.before .expiry = [.trust, .algorithm] := by decide
  rw [failsFirst_iff, hbefore]
  simp

theorem failsFirst_issuedAt_iff {p : Policy} : p.FailsFirst now t .issuedAt ↔
    (p.Passes now t .trust ∧ p.Passes now t .algorithm ∧ p.Passes now t .expiry) ∧
      ¬ p.Passes now t .issuedAt := by
  have hbefore : Check.before .issuedAt = [.trust, .algorithm, .expiry] := by decide
  rw [failsFirst_iff, hbefore]
  simp

theorem validate_eq_ok_iff {p : Policy} :
    p.validate now t = .ok () ↔ ∀ c, p.Passes now t c := by
  rw [validate, (judged_checks p now t).firstFailure_eq_ok_iff]
  simp only [Check.mem_all, forall_const]

-- ----- Times

/-- Only two checks look at the time. -/
theorem passes_congr {p : Policy} {c : Check} (hexpiry : c ≠ .expiry) (hissuedAt : c ≠ .issuedAt)
    (now later : Time) : p.Passes now t c ↔ p.Passes later t c := by
  cases c with
  | expiry => exact absurd rfl hexpiry
  | issuedAt => exact absurd rfl hissuedAt
  | _ => exact Iff.rfl

/-- A policy that accepts a token at one time accepts it from its issue to its expiry. -/
theorem validate_eq_ok_iff_of_ok {p : Policy} (h : p.validate start t = .ok ()) :
    ∃ iat exp, t.claims.iat = some iat ∧ t.claims.exp = some exp ∧
      ∀ now, p.validate now t = .ok () ↔ iat.toInt ≤ now.seconds ∧ now.seconds ≤ exp.toInt := by
  rw [validate_eq_ok_iff] at h
  obtain ⟨iat, hiat, -⟩ := h .issuedAt
  obtain ⟨exp, hexp, -⟩ := h .expiry
  refine ⟨iat, exp, hiat, hexp, fun now => ?_⟩
  rw [validate_eq_ok_iff]
  constructor
  · intro hall
    obtain ⟨iat', hiat', hfrom⟩ := hall .issuedAt
    obtain ⟨exp', hexp', huntil⟩ := hall .expiry
    cases hiat.symm.trans hiat'
    cases hexp.symm.trans hexp'
    exact ⟨hfrom, huntil⟩
  · rintro ⟨hfrom, huntil⟩ c
    by_cases hexpiry : c = .expiry
    · subst hexpiry
      exact ⟨exp, hexp, huntil⟩
    · by_cases hissuedAt : c = .issuedAt
      · subst hissuedAt
        exact ⟨iat, hiat, hfrom⟩
      · exact (passes_congr hexpiry hissuedAt start now).mp (h c)

/-- Being expired is up to the token alone. -/
theorem validate_eq_noExpiration_iff {p : Policy} : p.validate now t = .error .noExpiration ↔
    (p.Passes now t .trust ∧ p.Passes now t .algorithm) ∧ ¬ p.Passes now t .expiry := by
  rw [← failsFirst_expiry_iff, ← validate_eq_checkError_iff]
  rfl

theorem validate_eq_noIssuedAt_iff {p : Policy} : p.validate now t = .error .noIssuedAt ↔
    (p.Passes now t .trust ∧ p.Passes now t .algorithm ∧ p.Passes now t .expiry) ∧
      ¬ p.Passes now t .issuedAt := by
  rw [← failsFirst_issuedAt_iff, ← validate_eq_checkError_iff]
  rfl

theorem validate_eq_noExpiration_of_le {p : Policy} (h : p.validate now t = .error .noExpiration)
    (hle : now.seconds ≤ later.seconds) (q : Policy) :
    q.validate later t = .error .noExpiration := by
  obtain ⟨hbefore, hexpiry⟩ := validate_eq_noExpiration_iff.mp h
  refine validate_eq_noExpiration_iff.mpr ⟨hbefore, ?_⟩
  rintro ⟨exp, hexp, huntil⟩
  exact hexpiry ⟨exp, hexp, Int.le_trans hle huntil⟩

-- ----- Policies that a token suits

/-- Whatever the policy names is the token's own. -/
structure NamesOnly (p : Policy) (t : Token) : Prop where
  audiences : ∀ aud ∈ p.audiences, aud = t.claims.aud
  issuers : ∀ iss ∈ p.issuers, iss = t.claims.iss
  userId : ∀ id ∈ p.userId, id = "" ∨ id = t.claims.sub
  kind : ∀ kind ∈ p.kind, kind = t.claims.kind

theorem eq_nil_or_mem_of_forall_eq {xs : List α} (h : ∀ x ∈ xs, x = a) : xs = [] ∨ a ∈ xs := by
  cases xs with
  | nil => exact .inl rfl
  | cons x xs =>
    rw [h x List.mem_cons_self]
    exact .inr List.mem_cons_self

/-- Beside the times, such a policy asks only for what every trusted token has. -/
theorem NamesOnly.passes {p : Policy} (h : p.NamesOnly t) {c : Check} (htrust : c ≠ .trust)
    (halgorithm : c ≠ .algorithm) (hexpiry : c ≠ .expiry) (hissuedAt : c ≠ .issuedAt) :
    p.Passes now t c := by
  cases c with
  | trust => exact absurd rfl htrust
  | algorithm => exact absurd rfl halgorithm
  | expiry => exact absurd rfl hexpiry
  | issuedAt => exact absurd rfl hissuedAt
  | audience => exact eq_nil_or_mem_of_forall_eq h.audiences
  | issuer => exact eq_nil_or_mem_of_forall_eq h.issuers
  | subject =>
    cases hid : p.userId with
    | none => exact .inl hid
    | some id =>
      rcases h.userId id hid with rfl | rfl
      · exact .inr (.inl hid)
      · exact .inr (.inr hid)
  | kind =>
    cases hkind : p.kind with
    | none => exact .inl hkind
    | some kind =>
      rw [h.kind kind hkind] at hkind
      exact .inr hkind

theorem passes_expiry_iff {p : Policy} (h : t.claims.exp = some exp) :
    p.Passes now t .expiry ↔ now.seconds ≤ exp.toInt := by
  simp [Passes, h]

theorem passes_issuedAt_iff {p : Policy} (h : t.claims.iat = some iat) :
    p.Passes now t .issuedAt ↔ iat.toInt ≤ now.seconds := by
  simp [Passes, h]

/-- A trusted token whose times are in order is refused for one of them or not at all. -/
theorem NamesOnly.validate_iff {p : Policy} {t : Token} (h : p.NamesOnly t)
    (htrust : t.trust = .fresh ∨ t.trust = .verified)
    (halgorithm : t.header.alg = "ES256" ∨ t.header.alg = "RS256")
    (hiat : t.claims.iat = some iat) (hexp : t.claims.exp = some exp)
    (hle : iat.toInt ≤ exp.toInt) (now : Time) :
    (p.validate now t = .ok () ↔ iat.toInt ≤ now.seconds ∧ now.seconds ≤ exp.toInt) ∧
    (p.validate now t = .error .noExpiration ↔ exp.toInt < now.seconds) ∧
    (p.validate now t = .error .noIssuedAt ↔ now.seconds < iat.toInt) := by
  have htrust : p.Passes now t .trust := htrust
  have halgorithm : p.Passes now t .algorithm := halgorithm
  have hexpiry : p.Passes now t .expiry ↔ _ := passes_expiry_iff hexp
  have hissuedAt : p.Passes now t .issuedAt ↔ _ := passes_issuedAt_iff hiat
  refine ⟨?_, ?_, ?_⟩
  · rw [validate_eq_ok_iff]
    constructor
    · intro hall
      exact ⟨hissuedAt.mp (hall _), hexpiry.mp (hall _)⟩
    · rintro ⟨hfrom, huntil⟩ c
      cases c with
      | trust => exact htrust
      | algorithm => exact halgorithm
      | expiry => exact hexpiry.mpr huntil
      | issuedAt => exact hissuedAt.mpr hfrom
      | _ => exact h.passes (by decide) (by decide) (by decide) (by decide)
  · rw [validate_eq_noExpiration_iff, hexpiry]
    simp [htrust, halgorithm]
  · rw [validate_eq_noIssuedAt_iff, hexpiry, hissuedAt]
    simp only [htrust, halgorithm, true_and]
    omega

/-- Validation gives the error of the first check that the token does not pass,
and accepts it if there is none. For one token and one policy the times of
acceptance are all those from its issue to its expiry, or none. Once a token is
refused for its expiry, it is from then on, whatever the policy. -/
theorem validate_outcome (p : Policy) (t : Token) :
    (∀ now e, p.validate now t = .error e ↔ ∃ c, p.FailsFirst now t c ∧ e = Check.error t c) ∧
    (∀ now, p.validate now t = .ok () ↔ ∀ c, p.Passes now t c) ∧
    ((∀ now, p.validate now t ≠ .ok ()) ∨
      ∃ iat exp, t.claims.iat = some iat ∧ t.claims.exp = some exp ∧
        ∀ now, p.validate now t = .ok () ↔
          iat.toInt ≤ now.seconds ∧ now.seconds ≤ exp.toInt) ∧
    ∀ (now later : Time) (q : Policy), p.validate now t = .error .noExpiration →
      now.seconds ≤ later.seconds → q.validate later t = .error .noExpiration := by
  refine ⟨fun now e => validate_eq_error_iff, fun now => validate_eq_ok_iff, ?_, ?_⟩
  · by_cases haccepted : ∃ start, p.validate start t = .ok ()
    · obtain ⟨start, hstart⟩ := haccepted
      exact .inr (validate_eq_ok_iff_of_ok hstart)
    · exact .inl (not_exists.mp haccepted)
  · intro now later q h hle
    exact validate_eq_noExpiration_of_le h hle q

/-- A token for the first hour there is. -/
def hourToken : Token :=
  .new (.only .es256) "key" { Claims.new .access with iat := some 0, exp := some 3600 }

theorem validate_outcome_hourToken :
    Policy.validate { audiences := ["app"] } (.ofSeconds 3601) hourToken = .error .noExpiration ∧
      (∀ (later : Time) (q : Policy), 3601 ≤ later.seconds →
        q.validate later hourToken = .error .noExpiration) ∧
      ∀ now, Policy.validate {} now hourToken = .ok () ↔
        0 ≤ now.seconds ∧ now.seconds ≤ 3600 := by
  have hexpired : Policy.validate { audiences := ["app"] } (.ofSeconds 3601) hourToken =
      .error .noExpiration := rfl
  obtain ⟨-, -, -, hlater⟩ := validate_outcome { audiences := ["app"] } hourToken
  obtain ⟨-, -, htimes, -⟩ := validate_outcome {} hourToken
  refine ⟨hexpired, fun later q hle => hlater _ later q hexpired hle, ?_⟩
  rcases htimes with hnever | ⟨iat, exp, ⟨⟩, ⟨⟩, htimes⟩
  · exact absurd rfl (hnever .epoch)
  · exact htimes

end IdentityProvider.Policy
