import IdentityProvider.Proofs.Service.Refresh

/-!
# What a refused presentation tells

A token is presented by its compact form, which is parsed and then validated
under a policy. `fails_alike`: when either step fails, whoever presented it
learns that authentication failed and nothing else. The log has one event, and
tells a form that cannot be decoded (`Undecodable`) from one that decodes and is
refused (`Objectionable`) by its level.
-/

namespace IdentityProvider

-- ----- Policies

namespace Policy

theorem mem_of_firstFailure {checks : List (Bool × ε)} (h : firstFailure checks = .error e) :
    (false, e) ∈ checks := by
  induction checks with
  | nil => cases h
  | cons check checks ih =>
    obtain ⟨passed, e'⟩ := check
    cases passed with
    | false =>
      cases h
      exact List.mem_cons_self
    | true => exact List.mem_cons_of_mem _ (ih h)

theorem kind_of_mem_checks {p : Policy} {now : Time} {t : Token} {check : Bool × IdentityError}
    (h : check ∈ p.checks now t) : check.2.kind = .validation := by
  simp only [checks, List.mem_cons, List.not_mem_nil, or_false] at h
  rcases h with rfl | rfl | rfl | rfl | rfl | rfl | rfl | rfl <;> rfl

/-- A check that the policy makes of the token at the time fails. -/
def Objects (p : Policy) (now : Time) (t : Token) : Prop := ∃ e, (false, e) ∈ p.checks now t

theorem objects_of_validate {p : Policy} (h : p.validate now t = .error e) :
    e.kind = .validation ∧ p.Objects now t := by
  have hmem := mem_of_firstFailure h
  exact ⟨kind_of_mem_checks hmem, e, hmem⟩

end Policy

-- ----- Compact forms that cannot be decoded

/-- There is nothing to decode, or a part is missing or does not decode. -/
def Token.Undecodable (compact : Bytes) : Prop := compact = [] ∨ ∃ fault, Malformed compact fault

theorem Token.undecodable_of_parseUnverified (h : parseUnverified compact = .error e) :
    e.kind = .malformed ∧ Undecodable compact := by
  rcases parseUnverified_eq_error_iff.mp h with ⟨hnil, rfl⟩ | ⟨fault, hfault, rfl⟩
  · exact ⟨rfl, .inl hnil⟩
  · exact ⟨rfl, .inr ⟨fault, hfault⟩⟩

theorem Token.Decodes.not_undecodable (h : Decodes compact message t) : ¬ Undecodable compact := by
  have hok := parseUnverified_eq_ok_iff.mpr ⟨message, h⟩
  rintro (hnil | ⟨fault, hfault⟩)
  · have herror := parseUnverified_eq_error_iff.mpr (.inl ⟨hnil, rfl⟩)
    rw [hok] at herror
    cases herror
  · have herror := parseUnverified_eq_error_iff.mpr (.inr ⟨fault, hfault, rfl⟩)
    rw [hok] at herror
    cases herror

namespace Service

-- ----- What is reported

theorem result_reported (context : String) (x : Except IdentityError α) :
    (reported context x).result = x := by
  cases x <;> rfl

variable [VerifyingKey P]

-- ----- Presentations

section
variable (s : Service K P) (now : Time) (p : Policy) (compact : Bytes)

/-- A presentation that fails, with its error and all that is logged. -/
inductive Fails : IdentityError → List Event → Prop
  | parsing (h : (s.parse compact).result = .error e) : Fails e (s.parse compact).events
  | validating (hparse : (s.parse compact).result = .ok t)
      (h : (validate now t p).result = .error e) :
    Fails e ((s.parse compact).events ++ (validate now t p).events)

/-- The compact form decodes, and the active key does not accept what it spells
or the policy objects to it. -/
def Objectionable : Prop :=
  ∃ message t, Token.Decodes compact message t ∧
    (¬ Token.Accepted s.keys.publicKey message t ∨ p.Objects now { t with trust := .verified })

end

variable {s : Service K P}

theorem kind_of_parse (h : (s.parse compact).result = .error e) (now : Time) (p : Policy) :
    e.kind = .malformed ∧ Token.Undecodable compact ∨
      e.kind = .validation ∧ s.Objectionable now p compact := by
  rw [parse, result_reported] at h
  rcases Token.parseAndVerify_eq_error_iff.mp h with h | ⟨message, t, fault, hd, hrefused, rfl⟩
  · exact .inl (Token.undecodable_of_parseUnverified h)
  · refine .inr ⟨rfl, message, t, hd, .inl fun haccepted => ?_⟩
    rw [← Token.checkSignature_eq_ok_iff, Token.checkSignature_eq_error_iff.mpr hrefused]
      at haccepted
    cases haccepted

theorem kind_of_validate (hparse : (s.parse compact).result = .ok t)
    (h : (validate now t p).result = .error e) :
    e.kind = .validation ∧ s.Objectionable now p compact := by
  rw [parse, result_reported] at hparse
  rw [validate, result_reported] at h
  obtain ⟨message, u, hd, -, -, rfl⟩ := Token.parseAndVerify_eq_ok_iff.mp hparse
  obtain ⟨hkind, hobjects⟩ := Policy.objects_of_validate h
  exact ⟨hkind, message, u, hd, .inr hobjects⟩

theorem Fails.kind (h : Fails s now p compact e events) :
    e.kind = .malformed ∧ Token.Undecodable compact ∨
      e.kind = .validation ∧ s.Objectionable now p compact := by
  cases h with
  | parsing h => exact kind_of_parse h now p
  | validating hparse h => exact .inr (kind_of_validate hparse h)

/-- A step that succeeds logs nothing, so there is one report. -/
theorem Fails.events_eq (h : Fails s now p compact e events) :
    ∃ context, events = [report context e] := by
  cases h with
  | parsing h =>
    unfold parse at h ⊢
    rw [result_reported] at h
    rw [h]
    exact ⟨_, rfl⟩
  | validating hparse h =>
    unfold parse at hparse ⊢
    unfold validate at h ⊢
    rw [result_reported] at hparse h
    rw [hparse, h]
    exact ⟨_, rfl⟩

theorem Fails.ofError (h : Fails s now p compact e events) :
    PublicError.ofError e = .authenticationFailed := by
  show PublicError.ofKind e.kind e.code = _
  rcases h.kind with ⟨hkind, -⟩ | ⟨hkind, -⟩
  · rw [hkind]
    rfl
  · rw [hkind]
    rfl

theorem Objectionable.not_undecodable (h : s.Objectionable now p compact) :
    ¬ Token.Undecodable compact := by
  obtain ⟨message, t, hdecodes, -⟩ := h
  exact hdecodes.not_undecodable

/-- A presentation that fails looks like any other that does, whatever was
presented to whom. It is reported once: for information if it cannot be decoded,
and as a warning if it can and is refused for its algorithm, its signature or by
the policy. -/
theorem fails_alike (h : Fails s now p compact e events) :
    PublicError.ofError e = .authenticationFailed ∧
    (∀ (s' : Service K P) now' p' compact' e' events', Fails s' now' p' compact' e' events' →
      PublicError.ofError e' = PublicError.ofError e) ∧
    ∃ context, events = [report context e] ∧
      ((report context e).level = .info ↔ Token.Undecodable compact) ∧
      ((report context e).level = .warn ↔ s.Objectionable now p compact) := by
  refine ⟨h.ofError, fun s' now' p' compact' e' events' h' => ?_, ?_⟩
  · rw [h'.ofError, h.ofError]
  · obtain ⟨context, hevents⟩ := h.events_eq
    refine ⟨context, hevents, ?_⟩
    show (reportLevel e.kind = .info ↔ _) ∧ (reportLevel e.kind = .warn ↔ _)
    rcases h.kind with ⟨hkind, hundecodable⟩ | ⟨hkind, hobjectionable⟩
    · have hnot : ¬ s.Objectionable now p compact := fun hobjectionable =>
        hobjectionable.not_undecodable hundecodable
      simp [hkind, reportLevel, hundecodable, hnot]
    · simp [hkind, reportLevel, hobjectionable, hobjectionable.not_undecodable]

-- ----- A token without an end

/-- The sample token as its own key verifies it. -/
def verifiedSample : Token :=
  { RecordedKey.sampleToken with signature := RecordedKey.sample.signature, trust := .verified }

theorem parse_verifiedSample :
    (sampleService.parse verifiedSample.compactForm).result = .ok verifiedSample := by
  rw [parse, result_reported]
  exact Token.parseAndVerify_compactForm (RecordedKey.sound .sample) rfl (if_pos rfl)

theorem fails_alike_verifiedSample : ∃ events,
    Fails sampleService .epoch {} verifiedSample.compactForm .noExpiration events ∧
    PublicError.ofError IdentityError.noExpiration = .authenticationFailed ∧
    ∃ context, events = [report context IdentityError.noExpiration] ∧
      ((report context IdentityError.noExpiration).level = .warn ↔
        sampleService.Objectionable .epoch {} verifiedSample.compactForm) := by
  have hfails : Fails sampleService .epoch {} verifiedSample.compactForm .noExpiration _ :=
    .validating parse_verifiedSample rfl
  obtain ⟨hpublic, -, context, hevents, -, hwarn⟩ := fails_alike hfails
  exact ⟨_, hfails, hpublic, context, hevents, hwarn⟩

end Service

end IdentityProvider
