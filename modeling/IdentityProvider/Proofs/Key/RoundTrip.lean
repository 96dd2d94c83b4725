import IdentityProvider.Proofs.Key.Der
import IdentityProvider.Proofs.Key.Pem
import IdentityProvider.Proofs.Key.Document
import IdentityProvider.Proofs.Modular
import IdentityProvider.Proofs.P256.Points

/-!
# Keys, written and read

The envelope of a key is read back (`readPublic_writePublic`,
`readPrivate_writePrivate`), and so is the key in it: a point of the curve, and an RSA
key whose numbers fit together. A public RSA key must also be short, else its own
document is refused (`PublicKey.ofDocument?_rs256`); a private one need not be.
-/

namespace IdentityProvider

open Der (Element maxLength contentLength natural)

namespace KeyDocument

variable {a : Algorithm} {key : Bytes}

-- ----- Envelopes

/-- An envelope is not longer than its key by more than this. -/
def envelopeSize : Nat := 64

theorem isTag_family (a : Algorithm) : Der.isTag (family a).tag := by
  cases a <;> decide

theorem length_family_le (a : Algorithm) : (family a).content.length ≤ 19 := by
  cases a <;> decide

/-- The members of an envelope have little beside the key. -/
theorem length_write_envelope_lt {members : List Element} (hcount : members.length ≤ 3)
    (hcontent : contentLength members ≤ key.length + 20) (h : key.length + envelopeSize ≤ maxLength) :
    (Der.sequence members).write.length < maxLength := by
  simp only [envelopeSize] at h
  have hlength := Der.length_write_sequence_le members (by omega)
  omega

theorem length_writePublic_lt (a : Algorithm) (h : key.length + envelopeSize ≤ maxLength) :
    (writePublic a key).length < maxLength := by
  have hfamily := length_family_le a
  refine length_write_envelope_lt (by simp) ?_ h
  simp only [Der.contentLength_cons, Der.contentLength_nil, Der.bits, List.length_cons]
  omega

theorem length_writePrivate_lt (a : Algorithm) (h : key.length + envelopeSize ≤ maxLength) :
    (writePrivate a key).length < maxLength := by
  have hfamily := length_family_le a
  have hversion : (natural 0).content.length = 1 := rfl
  refine length_write_envelope_lt (by simp) ?_ h
  simp only [Der.contentLength_cons, Der.contentLength_nil, Der.octets, hversion]
  omega

theorem readPublic_writePublic (h : (writePublic a key).length < maxLength) :
    readPublic a (writePublic a key) = some key := by
  have hread : Der.readSequence (writePublic a key) = some [family a, Der.bits key] := by
    refine Der.readSequence_write ?_ h
    exact List.forall_mem_cons.mpr ⟨isTag_family a, List.forall_mem_singleton.mpr rfl⟩
  exact readPublic_eq_some_iff.mpr ⟨_, hread, rfl⟩

/-- The key stands in its envelope. -/
theorem length_lt_writePrivate (a : Algorithm) (key : Bytes) :
    key.length < (writePrivate a key).length := by
  let members := [natural 0, family a, Der.octets key]
  have hmember : key.length ≤ (Der.writeAll members).length :=
    Der.length_content_le (e := Der.octets key) (by simp [members])
  exact hmember.trans_lt (Der.sequence members).length_content_lt_write

theorem readPrivate_writePrivate (h : (writePrivate a key).length < maxLength) :
    readPrivate a (writePrivate a key) = some key := by
  have hread : Der.readSequence (writePrivate a key) =
      some [natural 0, family a, Der.octets key] := by
    refine Der.readSequence_write ?_ h
    exact List.forall_mem_cons.mpr ⟨rfl, List.forall_mem_cons.mpr
      ⟨isTag_family a, List.forall_mem_singleton.mpr rfl⟩⟩
  exact readPrivate_eq_some_iff.mpr ⟨0, _, [], ⟨⟨_, hread, rfl⟩, rfl⟩, rfl⟩

theorem checkLength_eq_ok_iff {part : KeyPart} {document document' : Bytes} :
    checkLength part document = .ok document' ↔
      document.length < maxLength ∧ document' = document := by
  unfold checkLength
  split
  · rename_i h
    simp [h, eq_comm]
  · rename_i h
    simp [h]

-- ----- Numbers

theorem isTag_natural (n : Nat) : Der.isTag (natural n).tag := rfl

theorem mapM_natural? (ns : List Nat) : (ns.map natural).mapM Element.natural? = some ns := by
  induction ns with
  | nil => rfl
  | cons n ns ih => simp [ih]

theorem readSequence_naturals (ns : List Nat)
    (h : (Der.sequence (ns.map natural)).write.length < maxLength) :
    (Der.readSequence (Der.sequence (ns.map natural)).write).bind
      (fun es => es.mapM Element.natural?) = some ns := by
  rw [Der.readSequence_write (by simp [isTag_natural]) h, Option.bind_some, mapM_natural?]

-- ----- RSA keys

theorem digitCount_exponent_le {key : Rsa.PublicKey} (h : key.isSound) :
    Bytes.digitCount key.e ≤ 5 := by
  simp only [Rsa.PublicKey.isSound, Bool.and_eq_true, decide_eq_true_eq] at h
  apply Bytes.digitCount_le
  have hmax : Rsa.maxPublicExponent < 256 ^ 5 := by decide
  omega

theorem contentLength_rsaPublic_le {key : Rsa.PublicKey} (hsound : key.isSound) :
    contentLength ([key.n, key.e].map natural) ≤ Bytes.digitCount key.n + 7 := by
  have hn := Der.length_naturalContent_le key.n
  have he := Der.length_naturalContent_le key.e
  have hexponent := digitCount_exponent_le hsound
  simp only [List.map_cons, List.map_nil, Der.contentLength_cons, Der.contentLength_nil, natural]
  omega

theorem length_writeRsaPublic_le {key : Rsa.PublicKey} (hsound : key.isSound)
    (h : Bytes.digitCount key.n + 2 * envelopeSize ≤ maxLength) :
    (writeRsaPublic key).length + envelopeSize ≤ maxLength := by
  simp only [envelopeSize] at h ⊢
  have hsize := contentLength_rsaPublic_le hsound
  have hcount : ([key.n, key.e].map natural).length = 2 := rfl
  have hlength : (writeRsaPublic key).length ≤ _ :=
    Der.length_write_sequence_le ([key.n, key.e].map natural) (by omega)
  omega

theorem readRsaPublic_write {key : Rsa.PublicKey} (hsound : key.isSound)
    (h : Bytes.digitCount key.n + 2 * envelopeSize ≤ maxLength) :
    readRsaPublic (writeRsaPublic key) = if key.isShort then some key else none := by
  simp only [envelopeSize] at h
  have hsize := contentLength_rsaPublic_le hsound
  have hcount : ([key.n, key.e].map natural).length = 2 := rfl
  have hlength := Der.length_write_sequence_le ([key.n, key.e].map natural) (by omega)
  have hread := readSequence_naturals [key.n, key.e] (hlength.trans_lt (by omega))
  rw [List.map_cons, List.map_singleton] at hread
  simp [readRsaPublic, writeRsaPublic, hread, hsound]

theorem checks_of_readRsaPublic {rsa : Rsa.PublicKey} (h : readRsaPublic key = some rsa) :
    rsa.isShort ∧ rsa.isSound := by
  unfold readRsaPublic at h
  split at h
  · dsimp only at h
    split at h
    · rename_i hchecks
      cases h
      exact hchecks
    · cases h
  · cases h

theorem writeRsaPrivate?_eq_some_iff {k : Rsa.PrivateKey} :
    writeRsaPrivate? k = some key ↔ ∃ coefficient, k.coefficient? = some coefficient ∧
      key = (Der.sequence ([0, k.n, k.e, k.d, k.p, k.q, k.d % (k.p - 1), k.d % (k.q - 1),
        coefficient].map natural)).write := by
  unfold writeRsaPrivate?
  rw [Option.map_eq_some_iff]
  exact ⟨fun ⟨c, hc, hkey⟩ => ⟨c, hc, hkey.symm⟩, fun ⟨c, hc, hkey⟩ => ⟨c, hc, hkey.symm⟩⟩

theorem readRsaPrivate_write {k : Rsa.PrivateKey} (hsound : k.isSound)
    (hwrite : writeRsaPrivate? k = some key) (h : key.length < maxLength) :
    readRsaPrivate key = some k := by
  obtain ⟨coefficient, -, rfl⟩ := writeRsaPrivate?_eq_some_iff.mp hwrite
  have hread := readSequence_naturals [0, k.n, k.e, k.d, k.p, k.q, k.d % (k.p - 1),
    k.d % (k.q - 1), coefficient] h
  unfold readRsaPrivate
  rw [hread]
  exact if_pos hsound

theorem contentLength_naturals_le {ns : List Nat} {size : Nat}
    (h : ∀ n ∈ ns, Bytes.digitCount n ≤ size) :
    contentLength (ns.map natural) ≤ ns.length * (size + 1) := by
  induction ns with
  | nil => exact Nat.zero_le _
  | cons n ns ih =>
    obtain ⟨hn, hns⟩ := List.forall_mem_cons.mp h
    have hcontent := Der.length_naturalContent_le n
    have hrest := ih hns
    simp only [List.map_cons, Der.contentLength_cons, natural, List.length_cons, Nat.succ_mul]
    omega

/-- No number in the document of a key is larger than its modulus. -/
theorem length_writeRsaPrivate_le {k : Rsa.PrivateKey} (hsound : k.isSound) (hd : k.d < k.n)
    (hwrite : writeRsaPrivate? k = some key) (h : 9 * (Bytes.digitCount k.n + 7) < maxLength) :
    key.length ≤ 9 * (Bytes.digitCount k.n + 7) + 6 := by
  obtain ⟨coefficient, hcoefficient, rfl⟩ := writeRsaPrivate?_eq_some_iff.mp hwrite
  simp only [Rsa.PrivateKey.isSound, Rsa.PublicKey.isSound, Rsa.PrivateKey.publicKey,
    Bool.and_eq_true, decide_eq_true_eq, beq_iff_eq] at hsound
  obtain ⟨⟨⟨⟨⟨⟨-, he⟩, hp⟩, hq⟩, hproduct⟩, -⟩, -⟩ := hsound
  have he : k.e < k.n := of_decide_eq_true he
  have hple : k.p ≤ k.n := hproduct ▸ Nat.le_mul_of_pos_right k.p (by omega)
  have hqle : k.q ≤ k.n := hproduct ▸ Nat.le_mul_of_pos_left k.q (by omega)
  have hinverse : coefficient < k.p := Modular.inverse?_lt (by omega) hcoefficient
  have hdp := Nat.mod_le k.d (k.p - 1)
  have hdq := Nat.mod_le k.d (k.q - 1)
  have hnumbers : ∀ m ∈ [0, k.n, k.e, k.d, k.p, k.q, k.d % (k.p - 1), k.d % (k.q - 1), coefficient],
      Bytes.digitCount m ≤ Bytes.digitCount k.n := by
    simp only [List.forall_mem_cons, List.not_mem_nil, false_imp_iff, implies_true, and_true]
    refine ⟨?_, ?_, ?_, ?_, ?_, ?_, ?_, ?_, ?_⟩ <;> exact Bytes.digitCount_mono (by omega)
  have hcontent := contentLength_naturals_le hnumbers
  simp only [List.length_cons, List.length_nil] at hcontent
  generalize hnatural : [0, k.n, k.e, k.d, k.p, k.q, k.d % (k.p - 1), k.d % (k.q - 1),
    coefficient].map natural = es at hcontent ⊢
  have hcount : es.length = 9 := by rw [← hnatural]; rfl
  have hwhole := Der.length_write_sequence_le es (by omega)
  omega

theorem eq_naturals_of_mapM {es : List Element} {ns : List Nat}
    (h : es.mapM Element.natural? = some ns) : es = ns.map natural := by
  induction es generalizing ns with
  | nil =>
    cases h
    rfl
  | cons e es ih =>
    simp only [List.mapM_cons, Option.bind_eq_bind, Option.bind_eq_some_iff,
      Der.natural?_eq_some_iff, Option.pure_def, Option.some.injEq] at h
    obtain ⟨n, rfl, ns, hns, rfl⟩ := h
    rw [ih hns, List.map_cons]

/-- The factors stand in the document beside the modulus, which is as long as both. -/
theorem digitCount_of_readRsaPrivate {k : Rsa.PrivateKey} (h : readRsaPrivate key = some k) :
    k.isSound ∧ 2 * Bytes.digitCount k.n < maxLength := by
  unfold readRsaPrivate at h
  split at h
  · rename_i n e d p q _ _ _ hnumbers
    dsimp only at h
    split at h
    · rename_i hsound
      cases h
      refine ⟨hsound, ?_⟩
      obtain ⟨es, hes, hnumbers⟩ := Option.bind_eq_some_iff.mp hnumbers
      have hlength := Der.contentLength_of_readSequence hes
      rw [eq_naturals_of_mapM hnumbers] at hlength
      simp only [List.map_cons, Der.contentLength_cons] at hlength
      have hn := Der.digitCount_le_length_natural n
      have hp := Der.digitCount_le_length_natural p
      have hq := Der.digitCount_le_length_natural q
      have hproduct : p * q = n := by
        simp only [Rsa.PrivateKey.isSound, Bool.and_eq_true, beq_iff_eq] at hsound
        exact hsound.1.1.2
      have hfactors := Bytes.digitCount_mul_le p q
      rw [hproduct] at hfactors
      simp only
      omega
    · cases h
  · cases h

-- ----- Keys on the curve

theorem readScalar_bytes (secret : P256.Scalar) : readScalar secret.bytes = some secret := by
  have horder : P256.order < 256 ^ P256.coordinateSize := by decide
  have hvalue : Bytes.toNat secret.bytes = secret.val :=
    Bytes.toNat_ofNat (secret.lt.trans horder)
  have hlength : secret.bytes.length = P256.coordinateSize := Bytes.length_ofNat _ _
  simp [readScalar, hlength, hvalue, P256.Scalar.ofNat?, secret.pos, secret.lt]

/-- The member that holds the public key of a scalar. -/
def pointMember (secret : P256.Scalar) : Element :=
  Der.container (Der.wrapperTag 1) [Der.bits secret.point.write]

theorem length_write_point (p : P256.Point) : p.write.length = 65 := by
  have hlength (n : Nat) : (P256.coordinate n).length = 32 := Bytes.length_ofNat _ _
  simp [P256.Point.write, hlength]

theorem length_writePublic_point (p : P256.Point) :
    (writePublic .es256 p.write).length < maxLength := by
  apply length_writePublic_lt
  rw [length_write_point]
  decide

@[simp] theorem tag_pointMember (secret : P256.Scalar) :
    (pointMember secret).tag = Der.wrapperTag 1 := rfl

theorem wrapped?_pointMember (secret : P256.Scalar) :
    (pointMember secret).wrapped? = some (Der.bits secret.point.write) := by
  have hbits : (Der.bits secret.point.write).Legible := by
    refine ⟨rfl, ?_⟩
    simp only [Der.bits, List.length_cons, length_write_point]
    decide
  have hread := Der.readAll_writeAll [Der.bits secret.point.write] (by simpa using hbits)
  have htag : Der.isNumbered (Der.wrapperTag 1) ∧ Der.isConstructed (Der.wrapperTag 1) := by decide
  rw [Element.wrapped?, tag_pointMember, if_pos htag, pointMember, Der.container, hread]

theorem publicPartFits_pointMember (secret : P256.Scalar) :
    publicPartFits secret [pointMember secret] := by
  have hbelow : ¬ (Der.isNumbered (Der.wrapperTag 1) && Der.wrapperTag 1 &&& 0x1f < 1) := by decide
  have hkept : Der.skipBelow 1 [pointMember secret] = [pointMember secret] :=
    List.dropWhile_cons_of_neg hbelow
  have hnumber : (Der.isNumbered (Der.wrapperTag 1) && Der.wrapperTag 1 &&& 0x1f == 1) = true := by
    decide
  simp [publicPartFits, hkept, Element.hasNumber, hnumber, wrapped?_pointMember]

theorem afterCurveName_pointMember (secret : P256.Scalar) :
    afterCurveName [pointMember secret] = some [pointMember secret] := by
  have hnumber : (Der.isNumbered (Der.wrapperTag 1) && Der.wrapperTag 1 &&& 0x1f == 0) = false := by
    decide
  simp [afterCurveName, Element.hasNumber, hnumber]

theorem writeScalar_eq (secret : P256.Scalar) : writeScalar secret =
    (Der.sequence [natural 1, Der.octets secret.bytes, pointMember secret]).write := rfl

theorem contentLength_scalar (secret : P256.Scalar) :
    contentLength [natural 1, Der.octets secret.bytes, pointMember secret] ≤ 105 := by
  have hversion : (natural 1).content.length = 1 := rfl
  have hbytes : secret.bytes.length = 32 := Bytes.length_ofNat _ _
  have hmember := Der.length_writeAll_le [Der.bits secret.point.write] (by
    simp only [Der.contentLength_cons, Der.contentLength_nil, Der.bits, List.length_cons,
      length_write_point]
    decide)
  simp only [Der.contentLength_cons, Der.contentLength_nil, Der.bits, List.length_cons,
    length_write_point, List.length_nil] at hmember
  simp only [Der.contentLength_cons, Der.contentLength_nil, Der.octets, hversion, hbytes,
    pointMember, Der.container, Der.bits]
  omega

theorem readCurveKey_writeScalar (secret : P256.Scalar) :
    readCurveKey (writeScalar secret) = some secret := by
  have hsize := contentLength_scalar secret
  have hmax : 1000 < maxLength := by decide
  have htags : Der.isTag Der.octetStringTag ∧ Der.isTag (Der.wrapperTag 1) := by decide
  have hmembers : ∀ e ∈ [natural 1, Der.octets secret.bytes, pointMember secret],
      Der.isTag e.tag := by
    simpa [isTag_natural, Der.octets] using htags
  have hread := Der.readSequence_write_of_contentLength hmembers
    (by simp only [List.length_cons, List.length_nil]; omega)
  rw [← writeScalar_eq] at hread
  simp [readCurveKey, hread, readScalar_bytes, afterCurveName_pointMember,
    publicPartFits_pointMember]

theorem length_writeScalar_le (secret : P256.Scalar) : (writeScalar secret).length ≤ 129 := by
  have hsize := contentLength_scalar secret
  have hmax : 1000 < maxLength := by decide
  have hlength := Der.length_write_sequence_le
    [natural 1, Der.octets secret.bytes, pointMember secret]
    (by simp only [List.length_cons, List.length_nil]; omega)
  rw [writeScalar_eq]
  exact hlength.trans (by simp only [List.length_cons, List.length_nil]; omega)

theorem length_writeScalar_lt (secret : P256.Scalar) :
    (writePrivate .es256 (writeScalar secret)).length < maxLength :=
  length_writePrivate_lt .es256
    ((Nat.add_le_add_right (length_writeScalar_le secret) _).trans (by decide))

end KeyDocument

-- ----- Whole documents

open KeyDocument

theorem PublicKey.ofDocument?_es256 {p : P256.Point} (h : p.onCurve) :
    ofDocument? .es256 (es256 p).document = some (es256 p) := by
  simp only [ofDocument?, document, readPublic_writePublic (length_writePublic_point p),
    Option.bind_some, P256.Point.read_write h, Option.map_some]

theorem PublicKey.ofDocument?_rs256 {key : Rsa.PublicKey} (hsound : key.isSound)
    (h : Bytes.digitCount key.n + 2 * envelopeSize ≤ maxLength) :
    ofDocument? .rs256 (rs256 key).document = if key.isShort then some (rs256 key) else none := by
  have hlength := length_writePublic_lt .rs256 (length_writeRsaPublic_le hsound h)
  simp only [ofDocument?, document, readPublic_writePublic hlength, Option.bind_some,
    readRsaPublic_write hsound h]
  split <;> rfl

theorem PrivateKey.ofDocument?_es256 (secret : P256.Scalar) :
    ofDocument? .es256 (writePrivate .es256 (writeScalar secret)) = some (es256 secret) := by
  simp only [ofDocument?, readPrivate_writePrivate (length_writeScalar_lt secret),
    Option.bind_some, readCurveKey_writeScalar, Option.map_some]

theorem PrivateKey.ofDocument?_rs256 {k : Rsa.PrivateKey} {key : Bytes} (hsound : k.isSound)
    (hwrite : writeRsaPrivate? k = some key) (h : (writePrivate .rs256 key).length < maxLength) :
    ofDocument? .rs256 (writePrivate .rs256 key) = some (rs256 k) := by
  have hread := readRsaPrivate_write hsound hwrite ((length_lt_writePrivate _ _).trans h)
  simp only [ofDocument?, readPrivate_writePrivate h, Option.bind_some, hread, Option.map_some]

end IdentityProvider
