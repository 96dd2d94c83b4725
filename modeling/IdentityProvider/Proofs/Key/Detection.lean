import IdentityProvider.Key.Load
import IdentityProvider.Proofs.Key.Document

/-!
# Detecting the family of a key

Loading a key without naming its algorithm gives what loading it for the right one
gives (`detects`): no text is read for two algorithms, so it does not matter in which
order they are tried. What no algorithm reads is refused, as bytes that are no text
or as a key of no supported algorithm.
-/

namespace IdentityProvider

theorem Algorithm.mem_all (a : Algorithm) : a ∈ Algorithm.all := by
  cases a <;> decide

namespace KeyLoad

variable {κ : Type} {part : KeyPart} {pem : Bytes} {a : Algorithm} {e : CryptoError}

-- ----- Trying in order

section

variable {read? : Algorithm → Option κ} {order : List Algorithm} {k : κ}

/-- At most one algorithm reads the key. -/
def Exclusive (read? : Algorithm → Option κ) : Prop :=
  ∀ a b k k', read? a = some k → read? b = some k' → a = b

theorem exclusive_bind (document? : Option Bytes) {ofDocument? : Algorithm → Bytes → Option κ}
    (h : ∀ document, Exclusive (ofDocument? · document)) :
    Exclusive fun a => document?.bind (ofDocument? a) := by
  intro a b k k' ha hb
  obtain ⟨document, hdocument, ha⟩ := Option.bind_eq_some_iff.mp ha
  obtain ⟨document', hdocument', hb⟩ := Option.bind_eq_some_iff.mp hb
  rw [hdocument] at hdocument'
  cases hdocument'
  exact h document a b k k' ha hb

theorem result_only_eq_ok_iff {b : Algorithm} :
    (only part read? a).result = .ok (k, b) ↔ read? a = some k ∧ b = a := by
  cases h : read? a <;> simp [only, h, Logged.silent, eq_comm]

theorem result_only_eq_error_iff :
    (only part read? a).result = .error e ↔ read? a = none ∧ e = .invalidKey (.undecodable a part) := by
  cases h : read? a <;> simp [only, h, Logged.silent, eq_comm]

theorem result_detect_eq_error_iff : (detect read? order).result = .error e ↔
    (∀ a ∈ order, read? a = none) ∧ e = .unsupportedSignatureAlgorithm .noMatch := by
  induction order with
  | nil => simp [detect, Logged.silent, eq_comm]
  | cons b rest ih => cases hb : read? b <;> simp [detect, hb, ih]

theorem result_detect_eq_ok_iff (hread : Exclusive read?) :
    (detect read? order).result = .ok (k, a) ↔ a ∈ order ∧ read? a = some k := by
  induction order with
  | nil => simp [detect, Logged.silent]
  | cons b rest ih =>
    cases hb : read? b with
    | none =>
      have hne (ha : read? a = some k) : a ≠ b := by
        rintro rfl
        rw [hb] at ha
        cases ha
      simp only [detect, hb, ih, List.mem_cons]
      exact ⟨fun h => ⟨.inr h.1, h.2⟩, fun h => ⟨h.1.resolve_left (hne h.2), h.2⟩⟩
    | some k' =>
      simp only [detect, hb, Except.ok.injEq, Prod.mk.injEq, List.mem_cons]
      constructor
      · rintro ⟨rfl, rfl⟩
        exact ⟨.inl rfl, hb⟩
      · rintro ⟨-, ha⟩
        obtain rfl := hread _ _ _ _ ha hb
        rw [hb] at ha
        exact ⟨Option.some.inj ha, rfl⟩

/-- What one order of trial finds, every other finds. -/
theorem result_detect_perm {order' : List Algorithm} (hread : Exclusive read?)
    (horder : order.Perm order') : (detect read? order).result = (detect read? order').result := by
  cases h : (detect read? order').result with
  | error e =>
    rw [result_detect_eq_error_iff] at h ⊢
    exact ⟨fun a ha => h.1 a (horder.mem_iff.mp ha), h.2⟩
  | ok found =>
    rw [result_detect_eq_ok_iff hread] at h ⊢
    exact ⟨horder.mem_iff.mpr h.1, h.2⟩

end

-- ----- Loading

section

variable {read? : Algorithm → Bytes → Option κ} {k : κ}

theorem load_of_notUtf8 (part : KeyPart) (read? : Algorithm → Bytes → Option κ)
    (h : pem.toString? = none) (choice : AlgorithmChoice) :
    (load part read? pem choice).result = .error (.invalidKey .notUtf8) := by
  simp [load, h, Logged.silent]

theorem load_only_of_utf8 (part : KeyPart) (read? : Algorithm → Bytes → Option κ)
    (h : pem.toString? ≠ none) (a : Algorithm) :
    load part read? pem (.only a) = only part (read? · pem) a := by
  simp [load, h]

theorem load_auto_of_utf8 (part : KeyPart) (read? : Algorithm → Bytes → Option κ)
    (h : pem.toString? ≠ none) :
    load part read? pem .auto = detect (read? · pem) Algorithm.all := by
  simp [load, h]

theorem result_load_eq_ok_iff {choice : AlgorithmChoice} (hread : Exclusive (read? · pem)) :
    (load part read? pem choice).result = .ok (k, a) ↔
      pem.toString? ≠ none ∧ (choice = .auto ∨ choice = .only a) ∧ read? a pem = some k := by
  by_cases htext : pem.toString? = none
  · simp [load_of_notUtf8 part read? htext, htext]
  · cases choice with
    | auto =>
      rw [load_auto_of_utf8 part read? htext, result_detect_eq_ok_iff hread]
      simp [htext, Algorithm.mem_all]
    | only b =>
      rw [load_only_of_utf8 part read? htext, result_only_eq_ok_iff]
      constructor
      · rintro ⟨hb, rfl⟩
        exact ⟨htext, .inr rfl, hb⟩
      · rintro ⟨-, hb, ha⟩
        obtain rfl : b = a := by simpa using hb
        exact ⟨ha, rfl⟩

/-- What loading a text comes to when it is left open which algorithm the key is for. -/
structure Detects (load : AlgorithmChoice → Loaded κ) (algorithm : κ → Algorithm) (pem : Bytes) :
    Prop where
  found_iff : ∀ k a, (load .auto).result = .ok (k, a) ↔ (load (.only a)).result = .ok (k, a)
  algorithm_eq : ∀ k a, (load .auto).result = .ok (k, a) → algorithm k = a
  exclusive : ∀ a b found found', (load (.only a)).result = .ok found →
    (load (.only b)).result = .ok found' → a = b
  refused_iff : (∃ e, (load .auto).result = .error e) ↔ ∀ a, ∃ e, (load (.only a)).result = .error e
  refusal : ∀ e, (load .auto).result = .error e →
    e = if pem.toString? = none then .invalidKey .notUtf8 else .unsupportedSignatureAlgorithm .noMatch

theorem detects_of_exclusive {algorithm : κ → Algorithm} (hread : Exclusive (read? · pem))
    (halgorithm : ∀ a k, read? a pem = some k → algorithm k = a) :
    Detects (load part read? pem) algorithm pem := by
  by_cases htext : pem.toString? = none
  · have hrefused := load_of_notUtf8 part read? htext
    exact {
      found_iff := fun k a => by rw [hrefused, hrefused]
      algorithm_eq := fun k a h => by rw [hrefused] at h; cases h
      exclusive := fun a b _ _ h _ => by rw [hrefused] at h; cases h
      refused_iff := by simp [hrefused]
      refusal := fun e h => by
        rw [hrefused] at h
        rw [if_pos htext, Except.error.inj h] }
  · have hauto := load_auto_of_utf8 part read? htext
    have honly := load_only_of_utf8 part read? htext
    have hfound k a : (load part read? pem .auto).result = .ok (k, a) ↔ read? a pem = some k := by
      simp [result_load_eq_ok_iff hread, htext]
    exact {
      found_iff := fun k a => by rw [hfound, honly, result_only_eq_ok_iff]; simp
      algorithm_eq := fun k a h => halgorithm a k ((hfound k a).mp h)
      exclusive := fun a b found found' ha hb => by
        rw [honly, result_only_eq_ok_iff] at ha hb
        exact hread _ _ _ _ ha.1 hb.1
      refused_iff := by
        simp only [hauto, honly, result_detect_eq_error_iff, result_only_eq_error_iff]
        simp [Algorithm.mem_all]
      refusal := fun e h => by
        rw [hauto, result_detect_eq_error_iff] at h
        rw [if_neg htext, h.2] }

end

end KeyLoad

-- ----- Private and public keys

open KeyLoad

theorem PrivateKey.exclusive_ofPem? (pem : Bytes) : Exclusive (PrivateKey.ofPem? · pem) :=
  exclusive_bind _ fun _ _ _ _ _ => eq_of_ofDocument?

theorem PublicKey.exclusive_ofPem? (pem : Bytes) : Exclusive (PublicKey.ofPem? · pem) :=
  exclusive_bind _ fun _ _ _ _ _ => eq_of_ofDocument?

theorem PrivateKey.algorithm_of_ofPem? {k : PrivateKey} (h : ofPem? a pem = some k) :
    k.algorithm = a := by
  obtain ⟨document, -, h⟩ := Option.bind_eq_some_iff.mp h
  exact (envelope_of_ofDocument? h).1

theorem PublicKey.algorithm_of_ofPem? {k : PublicKey} (h : ofPem? a pem = some k) :
    k.algorithm = a := by
  obtain ⟨document, -, h⟩ := Option.bind_eq_some_iff.mp h
  exact (envelope_of_ofDocument? h).1

theorem detects (pem : Bytes) :
    Detects (PrivateKey.load pem) PrivateKey.algorithm pem ∧
      Detects (PublicKey.load pem) PublicKey.algorithm pem ∧
      ∀ order : List Algorithm, order.Perm Algorithm.all →
        (detect (PrivateKey.ofPem? · pem) order).result =
            (detect (PrivateKey.ofPem? · pem) Algorithm.all).result ∧
          (detect (PublicKey.ofPem? · pem) order).result =
            (detect (PublicKey.ofPem? · pem) Algorithm.all).result :=
  ⟨detects_of_exclusive (PrivateKey.exclusive_ofPem? pem) fun _ _ => PrivateKey.algorithm_of_ofPem?,
    detects_of_exclusive (PublicKey.exclusive_ofPem? pem) fun _ _ => PublicKey.algorithm_of_ofPem?,
    fun _ horder => ⟨result_detect_perm (PrivateKey.exclusive_ofPem? pem) horder,
      result_detect_perm (PublicKey.exclusive_ofPem? pem) horder⟩⟩

end IdentityProvider
