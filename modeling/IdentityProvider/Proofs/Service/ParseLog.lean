import IdentityProvider.Proofs.Log.Dots
import IdentityProvider.Proofs.Log.Shapes
import IdentityProvider.Proofs.Service.Rotation
import IdentityProvider.Proofs.Token.Parsing

/-!
# What the log of a parse shows

`not_infix_of_parse`: whatever becomes of a text with two dots that is presented as
a token, nothing that is logged shows it. The error may quote what a part decodes
to, which is shorter than the part; all else that is logged has one dot at most.
-/

namespace IdentityProvider

open Json (Dotless)
open Text (Shows)

-- ----- Texts that do not show a compact form

/-- A text with one dot at most, or that quotes no more than what a part of the
compact form decodes to. -/
inductive Conceals (compact : Bytes) (text : List Char) : Prop
  | plain (h : text.count '.' ≤ 1)
  | part (heq : compact = front ++ (Base64.encode .url bs ++ Token.dot :: rest))
      (hfront : ∀ b ∈ front, b.toNat < 128) (h : Shows bs.length text)

theorem lt_of_mem_part {b : UInt8} (h : b ∈ Base64.encode .url bs ++ [Token.dot]) :
    b.toNat < 128 := by
  rcases List.mem_append.mp h with h | h
  · exact Base64.lt_of_mem_encode h
  · rw [List.mem_singleton.mp h]
    decide

namespace Conceals

theorem of_dotless (h : Dotless s) : Conceals compact s.toList :=
  .plain (by rw [List.count_eq_zero.mpr h]; exact Nat.zero_le 1)

theorem behind_text (h : Conceals compact b.toList) (ha : Dotless a) :
    Conceals compact (a ++ b).toList := by
  cases h with
  | plain h => exact .plain (by rwa [Json.count_dot_append ha])
  | part heq hfront h => exact .part heq hfront (h.behind_text ha)

theorem before (h : Conceals compact text) (hpost : '.' ∉ post) :
    Conceals compact (text ++ post) := by
  cases h with
  | plain h => exact .plain (by simpa [List.count_eq_zero.mpr hpost] using h)
  | part heq hfront h => exact .part heq hfront (h.before hpost)

theorem not_infix_text (h : Conceals (Bytes.ofString c) text) (hdots : c.toList.count '.' = 2) :
    ¬ c.toList <:+: text := by
  cases h with
  | plain h =>
    intro hinfix
    have hle := hinfix.sublist.count_le '.'
    omega
  | @part front bs rest heq hfront h =>
    have hpart : ∀ b ∈ front ++ (Base64.encode .url bs ++ [Token.dot]), b.toNat < 128 := by
      intro b hb
      rcases List.mem_append.mp hb with hb | hb
      · exact hfront b hb
      · exact lt_of_mem_part hb
    have hbegins : Bytes.ofString c = front ++ (Base64.encode .url bs ++ [Token.dot]) ++ rest := by
      simp [heq]
    obtain ⟨cs, hcs⟩ := Bytes.exists_of_ofString_append hbegins hpart
    have hsplit : c.toList = (Bytes.ascii front).toList ++
        ((Bytes.ascii (Base64.encode .url bs)).toList ++ '.' :: cs) := by
      rw [hcs]
      simp [Bytes.ascii, Token.dot]
    rw [hsplit] at hdots ⊢
    refine h.not_infix_of_part ?_ ?_ (by omega)
    · rw [Bytes.ascii, String.toList_ofList]
      simpa using fun b hb => SecretPattern.isTokenChar_of_mem_encode hb
    · rw [Bytes.ascii, String.toList_ofList, List.length_map, Base64.length_encode]
      omega

end Conceals

-- ----- Errors of parsing

open Token

theorem TokenPart.dotless_name (part : TokenPart) : Dotless part.name := by
  cases part <;> decide

theorem Json.Shape.dotless_record {ms : Members} (hname : Json.Dotless name) (hms : ms.Dotless) :
    (Shape.record name ms).Dotless := by
  have hrecord : Json.Dotless (recordName name) := dotless_append.mpr ⟨by decide, hname⟩
  refine ⟨hrecord, ?_, hms⟩
  rw [recordLength]
  simp only [dotless_append, hrecord, dotless_natText]
  split <;> decide

theorem Header.dotless_format : Header.format.shape.Dotless := by
  refine Json.Shape.dotless_record (by decide) ?_
  simp only [Json.Members.Dotless, Json.Shape.Dotless]
  decide

theorem Claims.dotless_format : Claims.format.shape.Dotless := by
  refine Json.Shape.dotless_record (by decide) ?_
  simp only [members, TokenKind.shape, Json.Members.Dotless, Json.Shape.Dotless]
  decide

theorem conceals_encoding (part : TokenPart) (e : Base64.Error) :
    Conceals compact (MalformedToken.encoding part e).message.toList := by
  have he : Conceals compact e.message.toList := .plain e.count_dot_message
  exact he.behind_text (Json.dotless_append.mpr ⟨part.dotless_name, by decide⟩)

/-- What an error says of the content of a part is shorter than the part. -/
theorem Token.PartFault.conceals {f : Json.Format α} (h : PartFault part f text fault)
    (hf : f.shape.Dotless) (heq : compact = front ++ (text ++ dot :: rest))
    (hfront : ∀ b ∈ front, b.toNat < 128) : Conceals compact fault.message.toList := by
  cases h with
  | encoding h => exact conceals_encoding part _
  | @content bs e hb h =>
    cases Base64.decode_eq_ok_iff.mp hb
    have hends := Json.Format.decode_ends hf bs
    rw [h] at hends
    have he : Conceals compact e.message.toList :=
      .part heq hfront (Json.ReadError.shows_message hends)
    exact he.behind_text (Json.dotless_append.mpr ⟨part.dotless_name, by decide⟩)

/-- What a part spells is made of strings that are no longer than what it decodes to. -/
theorem Token.Spells.strings {f : Json.Format α} (h : Spells f text a) (hf : f.shape.Dotless) :
    ∃ bs v, text = Base64.encode .url bs ∧ a = f.build v ∧
      f.shape.Strings (Json.Short bs.length) v := by
  obtain ⟨bs, hb, h⟩ := h
  have hends := Json.Format.decode_ends hf bs
  rw [h] at hends
  obtain ⟨v, rfl, hv⟩ := hends
  exact ⟨bs, v, Base64.decode_eq_ok_iff.mp hb, rfl, hv⟩

theorem Token.Malformed.conceals (h : Malformed compact fault) :
    Conceals compact fault.message.toList := by
  cases h with
  | partCount => exact .of_dotless (by decide)
  | @header h c g _ hcut hh =>
    have hspelling : compact = [] ++ (h ++ dot :: (c ++ dot :: g)) := hcut.spelling
    exact hh.conceals Header.dotless_format hspelling (by simp)
  | @claims _ c g _ _ hcut hh hc =>
    obtain ⟨bs, -, rfl, -, -⟩ := hh.strings Header.dotless_format
    have hspelling : compact = (Base64.encode .url bs ++ [dot]) ++ (c ++ dot :: g) := by
      simp [hcut.spelling]
    exact hc.conceals Claims.dotless_format hspelling fun b hb => lt_of_mem_part hb
  | signature => exact conceals_encoding .signature _

theorem Algorithm.dotless_name (a : Algorithm) : Dotless a.name := by
  cases a <;> decide

theorem PublicKey.dotless_of_verify {key : PublicKey} {sig : Bytes}
    (h : key.verify message sig = .error f) : Dotless f.message := by
  unfold PublicKey.verify at h
  repeat' split at h
  all_goals
    cases h
  all_goals decide

theorem Token.Refused.conceals {key : PublicKey} (h : Refused key message t fault)
    (hd : Decodes compact message t) : Conceals compact fault.message.toList := by
  cases h with
  | notAllowed =>
    cases hd with
    | @parts _ c g _ _ _ hcut hh =>
      obtain ⟨bs, ⟨typ, alg, kid, -⟩, rfl, rfl, -, halg, -⟩ := hh.strings Header.dotless_format
      have hspelling : compact = [] ++ (Base64.encode .url bs ++ dot :: (c ++ dot :: g)) :=
        hcut.spelling
      refine .part hspelling (by simp) ?_
      have hquoted : Shows bs.length (Text.quoted alg).toList := Text.shows_quoted halg
      exact (hquoted.behind_text (by decide)).before_text (by decide)
  | @otherFamily a =>
    have hkey := Algorithm.dotless_name (VerifyingKey.algorithm key)
    refine .of_dotless ?_
    refine Json.dotless_append.mpr ⟨Json.dotless_append.mpr ⟨?_, hkey⟩, by decide⟩
    exact Json.dotless_append.mpr ⟨a.dotless_name, by decide⟩
  | @rejected f _ hv =>
    have hmessage : Dotless (CryptoError.signatureVerificationFailed f).message :=
      Json.dotless_append.mpr ⟨by decide, PublicKey.dotless_of_verify hv⟩
    exact .of_dotless hmessage

theorem conceals_of_parseAndVerify {key : PublicKey} (h : parseAndVerify compact key = .error e) :
    Conceals compact e.message.toList := by
  rw [parseAndVerify_eq_error_iff, parseUnverified_eq_error_iff] at h
  rcases h with (⟨-, rfl⟩ | ⟨fault, hmalformed, rfl⟩) | ⟨message, t, fault, hd, hrefused, rfl⟩
  · exact .of_dotless (by decide)
  · exact hmalformed.conceals.behind_text (by decide)
  · exact (hrefused.conceals hd).behind_text (by decide)

-- ----- Events

/-- How a value stands in the log. -/
def FieldValue.shown : FieldValue → String
  | .text s => s
  | .number n => Json.intText n

/-- All that an event shows: its message and the values of its fields. -/
def Event.shown (e : Event) : List String := e.message :: e.fields.map (·.2.shown)

theorem dotless_reportMessage (k : ErrorKind) : Dotless (reportMessage k) := by
  cases k <;> decide

namespace Service

theorem conceals_of_parse {s : Service PrivateKey PublicKey}
    (hevent : event ∈ (s.parse compact).events) (hshown : text ∈ event.shown) :
    Conceals compact text.toList := by
  unfold parse at hevent
  cases hparse : parseAndVerify compact s.keys.publicKey with
  | ok t =>
    rw [hparse] at hevent
    cases hevent
  | error e =>
    rw [hparse] at hevent
    cases List.mem_singleton.mp hevent
    have hcontext : Dotless ("parse token " ++ fingerprint compact) :=
      Json.dotless_append.mpr ⟨by decide, dotless_fingerprint compact⟩
    simp only [Event.shown, report, List.map_cons, List.map_nil, List.mem_cons, List.not_mem_nil,
      or_false] at hshown
    rcases hshown with rfl | rfl | rfl | rfl | rfl
    · exact .of_dotless (dotless_reportMessage _)
    · exact .of_dotless hcontext
    · exact .of_dotless (ErrorKind.dotless_name _)
    · exact .of_dotless (IdentityError.dotless_code e)
    · exact conceals_of_parseAndVerify hparse

/-- Nothing that is logged while a text with two dots is parsed shows the text, not
even with the place of a fault behind it, although the error may quote the algorithm
that the header names and strings of the header and the claims. -/
theorem not_infix_of_parse (s : Service PrivateKey PublicKey) {c : String}
    (hdots : c.toList.count '.' = 2) :
    ∀ event ∈ (s.parse (Bytes.ofString c)).events, ∀ text ∈ event.shown,
      ∀ place, '.' ∉ place → ¬ c.toList <:+: text.toList ++ place := by
  intro event hevent text htext place hplace
  exact ((conceals_of_parse hevent htext).before hplace).not_infix_text hdots

/-- A token for no key: the header names no algorithm, and there is no signature. -/
def unsigned : String := "eyJhbGciOiJub25lIn0.eyJ0eXBlIjoiYWNjZXNzIn0."

theorem parseAndVerify_unsigned :
    parseAndVerify (Bytes.ofString unsigned) es256Service.keys.publicKey =
      .error (.tokenInvalid (.algorithmNotAllowed "none")) := rfl

/-- The error quotes the algorithm of the header. -/
theorem not_infix_of_parse_unsigned :
    ∃ event ∈ (es256Service.parse (Bytes.ofString unsigned)).events,
      "Token is invalid: algorithm \"none\" is not allowed" ∈ event.shown ∧
      ∀ text ∈ event.shown, ∀ place, '.' ∉ place → ¬ unsigned.toList <:+: text.toList ++ place := by
  have hevent : report ("parse token " ++ fingerprint (Bytes.ofString unsigned))
      (IdentityError.tokenInvalid (.algorithmNotAllowed "none")) ∈
        (es256Service.parse (Bytes.ofString unsigned)).events := by
    unfold parse
    rw [parseAndVerify_unsigned]
    exact List.mem_singleton_self _
  have hmessage : "Token is invalid: algorithm \"none\" is not allowed" =
      (IdentityError.tokenInvalid (.algorithmNotAllowed "none")).message := by decide +kernel
  refine ⟨_, hevent, ?_, not_infix_of_parse es256Service (by decide) _ hevent⟩
  rw [hmessage]
  exact List.mem_of_getElem? (i := 4) rfl

end Service

end IdentityProvider
