import IdentityProvider.Proofs.Key.Detection
import IdentityProvider.Proofs.Key.RoundTrip

/-!
# Publishing the key of a server

A server loads its private key and publishes the public one as PEM text, which never
fails. Every verifier loads the same key from that text, told the algorithm or not, unless
it is an RSA key with a longer modulus than a public key may have
(`loadable_or_refused_of_load`). Private keys have no such limit, so there are keys that
sign and that no verifier can load (`exists_load_refused`).
-/

namespace IdentityProvider

open KeyDocument KeyLoad

variable {a : Algorithm}

-- ----- Documents of public keys

namespace PublicKey

variable {key : PublicKey}

/-- What reading asks of the key in a document, its length apart. -/
def Legible : PublicKey → Prop
  | es256 point => point.onCurve
  | rs256 key => key.isSound ∧ Bytes.digitCount key.n + 2 * envelopeSize ≤ Der.maxLength

/-- Only RSA keys have a limit. -/
def isShort : PublicKey → Bool
  | es256 _ => true
  | rs256 key => key.isShort

theorem exists_document_eq (key : PublicKey) :
    ∃ inner, key.document = writePublic key.algorithm inner := by
  cases key <;> exact ⟨_, rfl⟩

theorem length_document_lt (h : key.Legible) : key.document.length < Der.maxLength := by
  cases key with
  | es256 point => exact length_writePublic_point point
  | rs256 key => exact length_writePublic_lt _ (length_writeRsaPublic_le h.1 h.2)

theorem exists_readPublic_document (h : key.Legible) :
    ∃ inner, readPublic key.algorithm key.document = some inner := by
  have hlength := length_document_lt h
  obtain ⟨inner, hinner⟩ := key.exists_document_eq
  rw [hinner] at hlength ⊢
  exact ⟨inner, readPublic_writePublic hlength⟩

theorem ofDocument?_document (h : key.Legible) (a : Algorithm) :
    ofDocument? a key.document = if key.isShort ∧ a = key.algorithm then some key else none := by
  by_cases ha : a = key.algorithm
  · subst ha
    cases key with
    | es256 point => simpa [isShort, algorithm] using ofDocument?_es256 h
    | rs256 key => simpa [isShort, algorithm] using ofDocument?_rs256 h.1 h.2
  · obtain ⟨inner, hinner⟩ := exists_readPublic_document h
    rw [if_neg (fun hboth => ha hboth.2), Option.eq_none_iff_forall_ne_some]
    intro k hk
    obtain ⟨-, inner', hinner'⟩ := envelope_of_ofDocument? hk
    exact ha (eq_of_readPublic hinner' hinner)

theorem document_ne_nil (key : PublicKey) : key.document ≠ [] := by
  cases key <;> exact Der.Element.write_ne_nil _

theorem ofPem?_toPem (key : PublicKey) (a : Algorithm) :
    ofPem? a key.toPem = ofDocument? a key.document := by
  rw [ofPem?, toPem, Pem.decode_encode _ key.document_ne_nil, Option.bind_some]

theorem toString?_toPem (key : PublicKey) : key.toPem.toString? ≠ none := by
  have hascii : ∀ b ∈ key.toPem, b.toNat < 128 := fun b => Pem.lt_of_mem_encode (by decide)
  simp [Bytes.toString?_of_ascii hascii]

theorem publish_of_legible (h : key.Legible) : key.publish = .ok key.toPem := by
  have hcheck : checkLength .publicKey key.document = .ok key.document :=
    checkLength_eq_ok_iff.mpr ⟨length_document_lt h, rfl⟩
  rw [publish, hcheck]

-- ----- Loading what is published

/-- Every verifier loads the key from the text, told the algorithm or not. -/
structure LoadedFrom (key : PublicKey) (text : Bytes) : Prop where
  auto : (load text .auto).result = .ok (key, key.algorithm)
  only : (load text (.only key.algorithm)).result = .ok (key, key.algorithm)

/-- No verifier loads any key from the text. -/
structure Refused (text : Bytes) : Prop where
  auto : (load text .auto).result = .error (.unsupportedSignatureAlgorithm .noMatch)
  only : ∀ a, (load text (.only a)).result = .error (.invalidKey (.undecodable a .publicKey))

theorem ofPem?_of_isShort (h : key.Legible) (hshort : key.isShort) :
    ofPem? key.algorithm key.toPem = some key := by
  rw [ofPem?_toPem, ofDocument?_document h, if_pos ⟨hshort, rfl⟩]

theorem loadedFrom_of_isShort (h : key.Legible) (hshort : key.isShort) :
    key.LoadedFrom key.toPem := by
  have hread := ofPem?_of_isShort h hshort
  have hload choice (hchoice : choice = .auto ∨ choice = .only key.algorithm) :
      (load key.toPem choice).result = .ok (key, key.algorithm) :=
    (result_load_eq_ok_iff (exclusive_ofPem? _)).mpr ⟨key.toString?_toPem, hchoice, hread⟩
  exact ⟨hload _ (.inl rfl), hload _ (.inr rfl)⟩

theorem refused_of_not_isShort (h : key.Legible) (hlong : ¬ key.isShort) :
    Refused key.toPem := by
  have hread a : ofPem? a key.toPem = none := by
    rw [ofPem?_toPem, ofDocument?_document h, if_neg (fun hboth => hlong hboth.1)]
  constructor
  · rw [load, load_auto_of_utf8 _ _ key.toString?_toPem, result_detect_eq_error_iff]
    exact ⟨fun a _ => hread a, rfl⟩
  · intro a
    rw [load, load_only_of_utf8 _ _ key.toString?_toPem, result_only_eq_error_iff]
    exact ⟨hread a, rfl⟩

end PublicKey

-- ----- Loaded private keys

namespace PrivateKey

variable {k : PrivateKey} {pem document : Bytes} {choice : AlgorithmChoice}

theorem legible_of_ofDocument? (h : ofDocument? a document = some k) : k.publicKey.Legible := by
  cases a with
  | es256 =>
    obtain ⟨inner, -, h⟩ := Option.bind_eq_some_iff.mp h
    obtain ⟨secret, -, rfl⟩ := Option.map_eq_some_iff.mp h
    exact secret.onCurve_point
  | rs256 =>
    obtain ⟨inner, -, h⟩ := Option.bind_eq_some_iff.mp h
    obtain ⟨key, hkey, rfl⟩ := Option.map_eq_some_iff.mp h
    obtain ⟨hsound, hsize⟩ := digitCount_of_readRsaPrivate hkey
    -- Its factors leave room for the envelope of its public key.
    have hmax : 4 * envelopeSize ≤ Der.maxLength := by decide
    refine ⟨?_, ?_⟩
    · simp only [Rsa.PrivateKey.isSound, Bool.and_eq_true] at hsound
      exact hsound.1.1.1.1.1
    · simp only [Rsa.PrivateKey.publicKey]
      omega

theorem document_es256 (secret : P256.Scalar) :
    (es256 secret).document = .ok (writePrivate .es256 (writeScalar secret)) := by
  rw [PrivateKey.document, checkLength_eq_ok_iff]
  exact ⟨length_writeScalar_lt secret, rfl⟩

theorem document_rs256 {key : Rsa.PrivateKey} {inner : Bytes}
    (hwrite : writeRsaPrivate? key = some inner)
    (hlength : (writePrivate .rs256 inner).length < Der.maxLength) :
    (rs256 key).document = .ok (writePrivate .rs256 inner) := by
  rw [PrivateKey.document, hwrite]
  exact checkLength_eq_ok_iff.mpr ⟨hlength, rfl⟩

theorem toPem_of_document (h : k.document = .ok document) :
    k.toPem = .ok (Pem.encode KeyPart.privateKey.label document) := by
  rw [toPem, h]

theorem ofPem?_encode (hne : document ≠ []) (a : Algorithm) :
    ofPem? a (Pem.encode KeyPart.privateKey.label document) = ofDocument? a document := by
  rw [ofPem?, Pem.decode_encode _ hne, Option.bind_some]

theorem toString?_encode (document : Bytes) :
    (Pem.encode KeyPart.privateKey.label document).toString? ≠ none := by
  have hascii : ∀ b ∈ Pem.encode KeyPart.privateKey.label document, b.toNat < 128 :=
    fun b => Pem.lt_of_mem_encode (by decide)
  simp [Bytes.toString?_of_ascii hascii]

theorem load_encode {key : Bytes} (h : ofDocument? a (writePrivate a key) = some k) :
    (load (Pem.encode KeyPart.privateKey.label (writePrivate a key)) .auto).result =
      .ok (k, a) := by
  have hne : writePrivate a key ≠ [] := Der.Element.write_ne_nil _
  rw [load, result_load_eq_ok_iff (exclusive_ofPem? _), ofPem?_encode hne, h]
  exact ⟨toString?_encode _, .inl rfl, rfl⟩

/-- The public key of a loaded private key can be published, and it depends on the length of
the key alone whether all verifiers can load it or none. -/
theorem loadable_or_refused_of_load (h : (load pem choice).result = .ok (k, a)) :
    ∃ text, k.publicKey.publish = .ok text ∧
      a = k.algorithm ∧ k.publicKey.algorithm = k.algorithm ∧
      if k.publicKey.isShort then k.publicKey.LoadedFrom text else PublicKey.Refused text := by
  obtain ⟨-, -, hread⟩ := (result_load_eq_ok_iff (exclusive_ofPem? pem)).mp h
  obtain ⟨document, -, hdocument⟩ := Option.bind_eq_some_iff.mp hread
  have hlegible := legible_of_ofDocument? hdocument
  refine ⟨_, PublicKey.publish_of_legible hlegible, (algorithm_of_ofPem? hread).symm,
    k.algorithm_publicKey, ?_⟩
  split
  · rename_i hshort
    exact PublicKey.loadedFrom_of_isShort hlegible hshort
  · rename_i hlong
    exact PublicKey.refused_of_not_isShort hlegible hlong

/-- The least secret scalar. -/
def unitSecret : P256.Scalar := ⟨1, by decide, by decide⟩

theorem loadable_unit :
    (load (Pem.encode KeyPart.privateKey.label (writePrivate .es256 (writeScalar unitSecret)))
        .auto).result = .ok (.es256 unitSecret, .es256) ∧
      ∃ text, (PublicKey.es256 unitSecret.point).publish = .ok text ∧
        (PublicKey.es256 unitSecret.point).LoadedFrom text := by
  have hload := load_encode (ofDocument?_es256 unitSecret)
  obtain ⟨text, hpublish, -, -, hloaded⟩ := loadable_or_refused_of_load hload
  exact ⟨hload, text, hpublish, hloaded⟩

/-- A key with two primes of 2049 bits each. -/
def longKey : Rsa.PrivateKey :=
  let p := 2 ^ 2048 + 981
  let q := 2 ^ 2048 + 1617
  ⟨p * q, 17, (12 * ((p - 1) * (q - 1)) + 1) / 17, p, q⟩

theorem exists_load_refused :
    ∃ pem text, (PrivateKey.rs256 longKey).toPem = .ok pem ∧
      (load pem .auto).result = .ok (.rs256 longKey, .rs256) ∧
      (PrivateKey.rs256 longKey).publicKey.publish = .ok text ∧ PublicKey.Refused text := by
  have hsound : longKey.isSound := by decide +kernel
  have hd : longKey.d < longKey.n := by decide +kernel
  have hp : 0 < longKey.p := by decide +kernel
  have hcoprime : Nat.Coprime longKey.q longKey.p := by decide +kernel
  have hlong : ¬ (PublicKey.rs256 longKey.publicKey).isShort := by decide +kernel
  have hcount : Bytes.digitCount longKey.n ≤ 513 := Bytes.digitCount_le (by decide +kernel)
  have hmax : 10000 < Der.maxLength := by decide
  obtain ⟨coefficient, hcoefficient, -⟩ := Modular.inverse?_of_coprime hp hcoprime
  obtain ⟨key, hkey⟩ : ∃ key, writeRsaPrivate? longKey = some key :=
    ⟨_, writeRsaPrivate?_eq_some_iff.mpr ⟨coefficient, hcoefficient, rfl⟩⟩
  have hsize := length_writeRsaPrivate_le hsound hd hkey (by omega)
  have hlength : (writePrivate .rs256 key).length < Der.maxLength :=
    length_writePrivate_lt .rs256 (by simp only [envelopeSize]; omega)
  have hdocument := ofDocument?_rs256 hsound hkey hlength
  have hlegible := legible_of_ofDocument? hdocument
  exact ⟨_, _, toPem_of_document (document_rs256 hkey hlength), load_encode hdocument,
    PublicKey.publish_of_legible hlegible, PublicKey.refused_of_not_isShort hlegible hlong⟩

end PrivateKey

end IdentityProvider
