import IdentityProvider.Proofs.Chain
import IdentityProvider.Proofs.Cutting
import IdentityProvider.Token

/-!
# What becomes of a presented token

`parseAndVerify_outcome`: a compact form is empty, malformed, refused or
accepted, each under one condition. `Malformed`, `Decodes`, `Refused` and
`Accepted` state the conditions part by part: how the text falls into parts,
what each of them spells, and what the key, any predicate on messages and
signatures, says of the bytes before the last dot.
-/

namespace IdentityProvider

-- ----- Names of algorithms

theorem Algorithm.ofName?_eq_some_iff {s : String} {a : Algorithm} :
    Algorithm.ofName? s = some a ↔ s = a.name := by
  constructor
  · intro h
    have hname := List.find?_some h
    exact (of_decide_eq_true hname).symm
  · rintro rfl
    exact Algorithm.ofName?_name a

theorem Algorithm.ofName?_eq_none_iff {s : String} :
    Algorithm.ofName? s = none ↔ s ≠ "ES256" ∧ s ≠ "RS256" := by
  have hall : Algorithm.ofName? s = none ↔ ∀ a ∈ Algorithm.all, a.name ≠ s := by
    simp [Algorithm.ofName?]
  rw [hall]
  constructor
  · intro h
    exact ⟨(h .es256 (by decide)).symm, (h .rs256 (by decide)).symm⟩
  · rintro ⟨hes, hrs⟩ a -
    cases a
    · exact hes.symm
    · exact hrs.symm

namespace Token

-- ----- The parts

/-- A compact form cut at its two dots. -/
structure CutInto (compact h c g : Bytes) : Prop where
  spelling : compact = h ++ dot :: (c ++ dot :: g)
  header_free : dot ∉ h
  claims_free : dot ∉ c
  signature_free : dot ∉ g

theorem splitOn_eq_three_iff_cutInto :
    Bytes.splitOn dot compact = [h, c, g] ↔ CutInto compact h c g := by
  rw [Bytes.splitOn_eq_three_iff]
  constructor
  · rintro ⟨hs, hh, hc, hg⟩
    exact ⟨hs, hh, hc, hg⟩
  · rintro ⟨hs, hh, hc, hg⟩
    exact ⟨hs, hh, hc, hg⟩

theorem CutInto.ne_nil (hcut : CutInto compact h c g) : compact ≠ [] := by
  rw [hcut.spelling]
  simp

theorem CutInto.count_dot (hcut : CutInto compact h c g) : compact.count dot = 2 := by
  have hlen := Bytes.length_splitOn dot compact
  rw [splitOn_eq_three_iff_cutInto.mpr hcut] at hlen
  simpa using hlen.symm

theorem CutInto.unique (hcut : CutInto compact h c g)
    (hcut' : CutInto compact h' c' g') : h = h' ∧ c = c' ∧ g = g' := by
  have same :=
    (splitOn_eq_three_iff_cutInto.mpr hcut).symm.trans (splitOn_eq_three_iff_cutInto.mpr hcut')
  simpa using same

theorem split_eq_ok_iff : split compact = .ok (h, c, g) ↔ CutInto compact h c g := by
  rw [← splitOn_eq_three_iff_cutInto]
  constructor
  · intro hs
    unfold split at hs
    split at hs
    · cases hs
    · split at hs
      · rename_i heq
        cases hs
        exact heq
      · cases hs
  · intro hs
    have hne := (splitOn_eq_three_iff_cutInto.mp hs).ne_nil
    simp [split, hne, hs]

theorem split_eq_error_iff : split compact = .error e ↔
    compact = [] ∧ e = .emptyToken ∨
      compact ≠ [] ∧ compact.count dot ≠ 2 ∧ e = .malformedToken .partCount := by
  have hlen := Bytes.length_splitOn dot compact
  unfold split
  split
  · rename_i hnil
    simp [hnil, eq_comm]
  · rename_i hne
    split
    · rename_i heq
      have hcount := (splitOn_eq_three_iff_cutInto.mp heq).count_dot
      simp [hne, hcount]
    · rename_i hparts
      have hcount : compact.count dot ≠ 2 := by
        intro htwo
        rw [htwo] at hlen
        match hs : Bytes.splitOn dot compact, hlen with
        | [h, c, g], _ => exact hparts h c g hs
      simp [hne, hcount, eq_comm]

-- ----- Decoding a part

/-- The text of a part is base64 for bytes that a format reads as a value. -/
def Spells (f : Json.Format α) (text : Bytes) (a : α) : Prop :=
  ∃ bytes, Base64.decode .url text = .ok bytes ∧ f.decode bytes = .ok a

/-- Why the text of a part spells no value; the fault names the part. -/
inductive PartFault (part : TokenPart) (f : Json.Format α) (text : Bytes) : MalformedToken → Prop
  | encoding (h : Base64.decode .url text = .error e) : PartFault part f text (.encoding part e)
  | content (hb : Base64.decode .url text = .ok bytes) (h : f.decode bytes = .error e) :
    PartFault part f text (.content part e)

theorem decodeBytes_eq_ok_iff :
    decodeBytes part text = .ok bytes ↔ Base64.decode .url text = .ok bytes := by
  unfold decodeBytes
  cases Base64.decode .url text <;> simp

theorem decodeBytes_eq_error_iff : decodeBytes part text = .error e ↔
    ∃ e', Base64.decode .url text = .error e' ∧ e = .malformedToken (.encoding part e') := by
  unfold decodeBytes
  cases Base64.decode .url text <;> simp [eq_comm]

theorem decodePart_eq_ok_iff {f : Json.Format α} :
    decodePart part f text = .ok a ↔ Spells f text a := by
  simp only [decodePart, bind_eq_ok_iff, decodeBytes_eq_ok_iff, Spells]
  refine exists_congr fun bytes => and_congr_right fun _ => ?_
  cases f.decode bytes <;> simp

theorem decodePart_eq_error_iff {f : Json.Format α} : decodePart part f text = .error e ↔
    ∃ fault, PartFault part f text fault ∧ e = .malformedToken fault := by
  simp only [decodePart, bind_eq_error_iff, decodeBytes_eq_ok_iff, decodeBytes_eq_error_iff]
  constructor
  · rintro (⟨e', hb, rfl⟩ | ⟨bytes, hb, hd⟩)
    · exact ⟨_, .encoding hb, rfl⟩
    · cases hf : f.decode bytes with
      | ok a => simp [hf] at hd
      | error e' =>
        simp only [hf, Except.error.injEq] at hd
        exact ⟨_, .content hb hf, hd.symm⟩
  · rintro ⟨fault, hfault, rfl⟩
    cases hfault with
    | encoding hb => exact .inl ⟨_, hb, rfl⟩
    | content hb hf => exact .inr ⟨_, hb, by simp [hf]⟩

-- ----- Decoding the whole

/-- A compact form whose three parts decode, with what stands before its last
dot and the token that it spells. -/
inductive Decodes (compact : Bytes) : (message : Bytes) → Token → Prop
  | parts (hcut : CutInto compact h c g) (hh : Spells Header.format h hd)
      (hc : Spells Claims.format c cl) (hg : Base64.decode .url g = .ok sig) :
    Decodes compact (h ++ dot :: c) ⟨hd, cl, sig, .unverified⟩

/-- The first thing that is wrong with a compact form: the number of its parts,
or the first part that does not decode. -/
inductive Malformed (compact : Bytes) : MalformedToken → Prop
  | partCount (hne : compact ≠ []) (hcount : compact.count dot ≠ 2) : Malformed compact .partCount
  | header (hcut : CutInto compact h c g) (hh : PartFault .header Header.format h fault) :
    Malformed compact fault
  | claims (hcut : CutInto compact h c g) (hh : Spells Header.format h hd)
      (hc : PartFault .claims Claims.format c fault) : Malformed compact fault
  | signature (hcut : CutInto compact h c g) (hh : Spells Header.format h hd)
      (hc : Spells Claims.format c cl) (hg : Base64.decode .url g = .error e) :
    Malformed compact (.encoding .signature e)

theorem parseUnverified_eq_ok_iff :
    parseUnverified compact = .ok t ↔ ∃ message, Decodes compact message t := by
  simp only [parseUnverified, bind_eq_ok_iff, decodePart_eq_ok_iff, decodeBytes_eq_ok_iff,
    Except.ok.injEq]
  constructor
  · rintro ⟨⟨h, c, g⟩, hs, header, hh, claims, hc, signature, hg, rfl⟩
    exact ⟨_, .parts (split_eq_ok_iff.mp hs) hh hc hg⟩
  · rintro ⟨message, ⟨hcut, hh, hc, hg⟩⟩
    exact ⟨_, split_eq_ok_iff.mpr hcut, _, hh, _, hc, _, hg, rfl⟩

theorem parseUnverified_eq_error_iff : parseUnverified compact = .error e ↔
    compact = [] ∧ e = .emptyToken ∨ ∃ fault, Malformed compact fault ∧ e = .malformedToken fault := by
  simp only [parseUnverified, bind_eq_error_iff, split_eq_error_iff, decodePart_eq_ok_iff,
    decodePart_eq_error_iff, decodeBytes_eq_error_iff, reduceCtorEq, and_false, exists_false, or_false]
  constructor
  · rintro ((⟨hnil, rfl⟩ | ⟨hne, hcount, rfl⟩) | ⟨⟨h, c, g⟩, hs, hrest⟩)
    · exact .inl ⟨hnil, rfl⟩
    · exact .inr ⟨_, .partCount hne hcount, rfl⟩
    · have hcut := split_eq_ok_iff.mp hs
      rcases hrest with ⟨fault, hf, rfl⟩ | ⟨header, hh, ⟨fault, hf, rfl⟩ | ⟨claims, hc, e', hg, rfl⟩⟩
      · exact .inr ⟨fault, .header hcut hf, rfl⟩
      · exact .inr ⟨fault, .claims hcut hh hf, rfl⟩
      · exact .inr ⟨_, .signature hcut hh hc hg, rfl⟩
  · rintro (⟨hnil, rfl⟩ | ⟨fault, hf, rfl⟩)
    · exact .inl (.inl ⟨hnil, rfl⟩)
    · cases hf with
      | partCount hne hcount => exact .inl (.inr ⟨hne, hcount, rfl⟩)
      | header hcut hh => exact .inr ⟨_, split_eq_ok_iff.mpr hcut, .inl ⟨fault, hh, rfl⟩⟩
      | claims hcut hh hc =>
        exact .inr ⟨_, split_eq_ok_iff.mpr hcut, .inr ⟨_, hh, .inl ⟨fault, hc, rfl⟩⟩⟩
      | signature hcut hh hc hg =>
        exact .inr ⟨_, split_eq_ok_iff.mpr hcut, .inr ⟨_, hh, .inr ⟨_, hc, _, hg, rfl⟩⟩⟩

-- ----- Verifying

theorem dropWhile_ne_dot {xs ys : Bytes} (h : dot ∉ xs) :
    (xs ++ dot :: ys).dropWhile (· ≠ dot) = dot :: ys := by
  induction xs with
  | nil => simp
  | cons x xs ih =>
    rw [List.mem_cons, not_or] at h
    simpa [Ne.symm h.1] using ih h.2

theorem signedPart_append {message last : Bytes} (h : dot ∉ last) :
    signedPart (message ++ dot :: last) = message := by
  have hrev : (message ++ dot :: last).reverse = last.reverse ++ dot :: message.reverse := by simp
  rw [signedPart, hrev, dropWhile_ne_dot (by simpa using h)]
  simp

/-- The message is all that stands before the last dot. -/
theorem Decodes.signedPart (h : Decodes compact message t) : signedPart compact = message := by
  cases h with
  | parts hcut =>
    rw [hcut.spelling, ← List.cons_append, ← List.append_assoc]
    exact signedPart_append hcut.signature_free

variable [VerifyingKey P]

/-- Why a key does not accept a token that decodes. -/
inductive Refused (key : P) (message : Bytes) (t : Token) : InvalidToken → Prop
  | notAllowed (hes : t.header.alg ≠ "ES256") (hrs : t.header.alg ≠ "RS256") :
    Refused key message t (.algorithmNotAllowed t.header.alg)
  | otherFamily (ha : t.header.alg = a.name) (hne : a ≠ VerifyingKey.algorithm key) :
    Refused key message t (.familyMismatch a (VerifyingKey.algorithm key))
  | rejected (ha : t.header.alg = (VerifyingKey.algorithm key).name)
      (hv : VerifyingKey.verify key message t.signature = .error e) :
    Refused key message t (.signature (.signatureVerificationFailed e))

/-- A token that names the key's own algorithm and whose signature over the message
is the key's. -/
structure Accepted (key : P) (message : Bytes) (t : Token) : Prop where
  algorithm : t.header.alg = (VerifyingKey.algorithm key).name
  signed : VerifyingKey.verify key message t.signature = .ok ()

theorem checkSignature_eq_ok_iff {key : P} :
    checkSignature t message key = .ok () ↔ Accepted key message t := by
  unfold checkSignature Header.algorithm?
  constructor
  · intro h
    split at h
    · cases h
    · rename_i a ha
      split at h
      · cases h
      · rename_i hsame
        rw [Decidable.not_not] at hsame
        subst hsame
        refine ⟨Algorithm.ofName?_eq_some_iff.mp ha, ?_⟩
        split at h
        · assumption
        · cases h
  · rintro ⟨ha, hv⟩
    simp [Algorithm.ofName?_eq_some_iff.mpr ha, hv]

theorem checkSignature_eq_error_iff {key : P} :
    checkSignature t message key = .error fault ↔ Refused key message t fault := by
  unfold checkSignature Header.algorithm?
  constructor
  · intro h
    split at h
    · rename_i hnone
      cases h
      obtain ⟨hes, hrs⟩ := Algorithm.ofName?_eq_none_iff.mp hnone
      exact .notAllowed hes hrs
    · rename_i a ha
      have hname := Algorithm.ofName?_eq_some_iff.mp ha
      split at h
      · rename_i hne
        cases h
        exact .otherFamily hname hne
      · rename_i hsame
        rw [Decidable.not_not] at hsame
        subst hsame
        split at h
        · cases h
        · rename_i e hv
          cases h
          exact .rejected hname hv
  · intro h
    cases h with
    | notAllowed hes hrs => simp [Algorithm.ofName?_eq_none_iff.mpr ⟨hes, hrs⟩]
    | otherFamily ha hne => simp [Algorithm.ofName?_eq_some_iff.mpr ha, hne]
    | rejected ha hv => simp [Algorithm.ofName?_eq_some_iff.mpr ha, hv]

theorem parseAndVerify_eq_ok_iff {key : P} : parseAndVerify compact key = .ok t ↔
    ∃ message u, Decodes compact message u ∧ Accepted key message u ∧
      parseUnverified compact = .ok u ∧ t = { u with trust := .verified } := by
  simp only [parseAndVerify, bind_eq_ok_iff]
  constructor
  · rintro ⟨u, hu, h⟩
    obtain ⟨message, hd⟩ := parseUnverified_eq_ok_iff.mp hu
    rw [hd.signedPart] at h
    split at h
    · rename_i hs
      cases h
      exact ⟨message, u, hd, checkSignature_eq_ok_iff.mp hs, hu, rfl⟩
    · cases h
  · rintro ⟨message, u, hd, ha, hu, rfl⟩
    refine ⟨u, hu, ?_⟩
    rw [hd.signedPart, checkSignature_eq_ok_iff.mpr ha]

theorem parseAndVerify_eq_error_iff {key : P} : parseAndVerify compact key = .error e ↔
    parseUnverified compact = .error e ∨ ∃ message t fault, Decodes compact message t ∧
      Refused key message t fault ∧ e = .tokenInvalid fault := by
  simp only [parseAndVerify, bind_eq_error_iff]
  refine or_congr_right ⟨?_, ?_⟩
  · rintro ⟨t, ht, h⟩
    obtain ⟨message, hd⟩ := parseUnverified_eq_ok_iff.mp ht
    rw [hd.signedPart] at h
    split at h
    · cases h
    · rename_i fault hs
      cases h
      exact ⟨message, t, fault, hd, checkSignature_eq_error_iff.mp hs, rfl⟩
  · rintro ⟨message, t, fault, hd, hr, rfl⟩
    refine ⟨t, parseUnverified_eq_ok_iff.mpr ⟨message, hd⟩, ?_⟩
    rw [hd.signedPart, checkSignature_eq_error_iff.mpr hr]

/-- Nothing presented is an empty token. What is presented is malformed by its
first fault, if it has one; it is refused when it decodes and the key does not
accept it; and otherwise it is the token that decodes, now verified. -/
theorem parseAndVerify_outcome (compact : Bytes) (key : P) :
    (parseAndVerify compact key = .error .emptyToken ↔ compact = []) ∧
    (∀ fault, parseAndVerify compact key = .error (.malformedToken fault) ↔
      Malformed compact fault) ∧
    (∀ fault, parseAndVerify compact key = .error (.tokenInvalid fault) ↔
      ∃ message t, Decodes compact message t ∧ Refused key message t fault) ∧
    (∀ t, parseAndVerify compact key = .ok t ↔
      ∃ message u, Decodes compact message u ∧ Accepted key message u ∧
        parseUnverified compact = .ok u ∧ t = { u with trust := .verified }) ∧
    (parseAndVerify compact key = .error .emptyToken ∨
      (∃ fault, parseAndVerify compact key = .error (.malformedToken fault)) ∨
      (∃ fault, parseAndVerify compact key = .error (.tokenInvalid fault)) ∨
      ∃ t, parseAndVerify compact key = .ok t) := by
  refine ⟨?_, fun fault => ?_, fun fault => ?_, fun t => parseAndVerify_eq_ok_iff, ?_⟩
  · rw [parseAndVerify_eq_error_iff, parseUnverified_eq_error_iff]
    simp
  · rw [parseAndVerify_eq_error_iff, parseUnverified_eq_error_iff]
    simp
  · rw [parseAndVerify_eq_error_iff, parseUnverified_eq_error_iff]
    simp
  · cases h : parseAndVerify compact key with
    | ok t => exact .inr (.inr (.inr ⟨t, rfl⟩))
    | error e =>
      rw [parseAndVerify_eq_error_iff, parseUnverified_eq_error_iff] at h
      rcases h with (⟨-, rfl⟩ | ⟨fault, -, rfl⟩) | ⟨-, -, fault, -, -, rfl⟩
      · exact .inl rfl
      · exact .inr (.inl ⟨fault, rfl⟩)
      · exact .inr (.inr (.inl ⟨fault, rfl⟩))

end Token

end IdentityProvider
