import IdentityProvider.Proofs.Bytes
import IdentityProvider.Proofs.Log.Closure
import IdentityProvider.Proofs.Token.Signing

/-!
# Signed tokens in the log

Every signed token has the shape that redacting looks for, so none is left in a redacted text
unless it stood directly behind a letter of a word (`not_infix_redact_of_sign`): the pattern
begins at the beginning of a word. What it looks for ends with the last dot of the token, so
where that part of a token stands is what matters.
-/

namespace IdentityProvider

open SecretPattern

-- ----- The beginning of a token

theorem Json.exists_separated_cons (entry : List Json.Token) (entries : List (List Json.Token)) :
    ∃ rest, Json.separated (entry :: entries) = entry ++ rest := by
  cases entries with
  | nil => exact ⟨[], by simp [Json.separated]⟩
  | cons next entries => exact ⟨_, rfl⟩

/-- A header begins with the name of its first member. -/
theorem Header.exists_encode (h : Header) :
    ∃ rest, Header.format.encode h = 123 :: 34 :: 116 :: rest := by
  have hname : (Json.stringToken "typ").write = [34, 116, 121, 112, 34] := by decide
  obtain ⟨entries, hentries⟩ : ∃ entries, Header.format.shape.write (Header.format.view h) =
      .leftBrace :: (Json.separated (Json.memberTokens "typ" [Json.stringToken h.typ] :: entries) ++
        [.rightBrace]) := ⟨_, rfl⟩
  obtain ⟨rest, hrest⟩ := Json.exists_separated_cons
    (Json.memberTokens "typ" [Json.stringToken h.typ]) entries
  have hbrace : Json.Token.leftBrace.write = [123] := rfl
  rw [Json.Format.encode, Json.Shape.encode, hentries, hrest]
  simp [Json.memberTokens, hbrace, hname]

namespace Token

/-- A JSON object in base64 begins so. -/
theorem exists_encodePart_header (h : Header) :
    ∃ rest, encodePart Header.format h = [101, 121, 74] ++ rest := by
  obtain ⟨rest, hrest⟩ := h.exists_encode
  rw [encodePart, hrest]
  exact ⟨_, rfl⟩

theorem encodePart_claims_ne_nil (c : Claims) : encodePart Claims.format c ≠ [] := by
  rw [encodePart, Ne, Base64.encode_eq_nil_iff]
  simp [Json.Format.encode, Json.Shape.encode, Claims.format, Json.Shape.write, Json.Token.write]

/-- Header and claims with the dots behind them. -/
def beginning (t : Token) : Bytes := t.signingInput ++ [dot]

theorem isTokenChar_of_mem_encodePart {f : Json.Format α} {a : α} {b : UInt8}
    (h : b ∈ encodePart f a) : isTokenChar (Char.ofNat b.toNat) := isTokenChar_of_mem_encode h

theorem isTokenStart_beginning (t : Token) :
    IsTokenStart (Bytes.ascii t.beginning).toList := by
  obtain ⟨rest, hrest⟩ := exists_encodePart_header t.header
  have hheader : ∀ b ∈ rest, isTokenChar (Char.ofNat b.toNat) := by
    intro b hb
    have hmem : b ∈ encodePart Header.format t.header := by
      rw [hrest]
      exact List.mem_append_right _ hb
    exact isTokenChar_of_mem_encodePart hmem
  refine ⟨rest.map fun b => Char.ofNat b.toNat,
    (encodePart Claims.format t.claims).map fun b => Char.ofNat b.toNat, ?_, ?_, ?_, ?_⟩
  · simpa using hheader
  · simpa using fun b hb => isTokenChar_of_mem_encodePart hb
  · simpa using encodePart_claims_ne_nil t.claims
  · rw [Bytes.ascii, String.toList_ofList, beginning, signingInput, hrest]
    simp [dot]

-- ----- Redacting

/-- Nowhere in the text does the part stand directly behind a letter of a word. -/
def StandsFree (part text : List Char) : Prop :=
  ∀ front rest, text = front ++ (part ++ rest) → front.getLast?.any Text.isWordChar = false

/-- A part with the only dots of the text stands nowhere else in it. -/
theorem standsFree_between {part front rest : List Char} (hpart : part.getLast? = some '.')
    (hfront : '.' ∉ front) (hrest : '.' ∉ rest)
    (hword : front.getLast?.any Text.isWordChar = false) :
    StandsFree part (front ++ (part ++ rest)) := by
  intro front' rest' heq
  have hrest' : '.' ∉ rest' := by
    have hcount := congrArg (List.count '.') heq
    simp only [List.count_append, List.count_eq_zero.mpr hfront,
      List.count_eq_zero.mpr hrest] at hcount
    exact List.count_eq_zero.mp (by omega)
  obtain ⟨init, rfl⟩ := List.getLast?_eq_some_iff.mp hpart
  have hbehind {cs : List Char} (hcs : '.' ∉ cs) (xs : List Char) :
      (xs ++ (init ++ ['.'] ++ cs)).reverse.takeWhile (· ≠ '.') = cs.reverse := by
    have hrun : ∀ c ∈ cs.reverse, decide (c ≠ '.') := by
      intro c hc
      have hne : c ≠ '.' := fun h => hcs (by rwa [← h, ← List.mem_reverse])
      simpa using hne
    simp only [List.reverse_append, List.append_assoc, List.takeWhile_append_of_pos hrun]
    simp
  -- What follows the last dot is the same in both ways to cut the text.
  have hsame : rest.reverse = rest'.reverse := by rw [← hbehind hrest front, heq, hbehind hrest']
  rw [List.reverse_inj.mp hsame] at heq
  rwa [← List.append_cancel_right heq]

variable [VerifyingKey P] [SigningKey K P] {t : Token} {key : K} {compact : Bytes} {r : Redactor}

theorem ofString_of_sign (h : t.sign key = .ok compact) :
    Bytes.ofString (Bytes.ascii compact) = compact := by
  obtain ⟨-, -, signature, -, rfl⟩ := sign_eq_ok_iff.mp h
  refine Bytes.ofString_ascii fun b hb => ?_
  simp only [compactForm, signingInput, List.mem_append, List.mem_cons] at hb
  rcases hb with (hb | rfl | hb) | rfl | hb
  · exact Base64.lt_of_mem_encode hb
  · decide
  · exact Base64.lt_of_mem_encode hb
  · decide
  · exact Base64.lt_of_mem_encode hb

theorem beginning_prefix_of_sign (h : t.sign key = .ok compact) :
    (Bytes.ascii t.beginning).toList <+: (Bytes.ascii compact).toList := by
  obtain ⟨-, -, signature, -, rfl⟩ := sign_eq_ok_iff.mp h
  have hbegins : t.beginning <+: compactForm { t with signature } :=
    ⟨Base64.encode .url signature, by simp [beginning, compactForm, signingInput]⟩
  simpa only [Bytes.ascii, String.toList_ofList] using hbegins.map _

theorem not_infix_redact_of_sign (h : t.sign key = .ok compact) (hr : r.tokens) {text : String}
    (hfree : StandsFree (Bytes.ascii t.beginning).toList text.toList) :
    Bytes.ofString (Bytes.ascii compact) = compact ∧
      ¬ (Bytes.ascii compact).toList <:+: (r.redact text).toList := by
  refine ⟨ofString_of_sign h, fun hleft => ?_⟩
  rw [Redactor.toList_redact] at hleft
  have hstart := t.isTokenStart_beginning
  obtain ⟨xs, ys, heq, hnone⟩ := Redactor.source_of_infix_redactChars hr hstart.isNeedle
    ((beginning_prefix_of_sign h).isInfix.trans hleft)
  exact token_ne_none_iff.mpr ⟨hfree xs ys heq, _, hstart, List.prefix_append _ _⟩ hnone

/-- With no other dots around it, a signed token stands where it stands and nowhere else. -/
theorem standsFree_of_sign (h : t.sign key = .ok compact) {a b : String} (ha : '.' ∉ a.toList)
    (hb : '.' ∉ b.toList) (hword : a.toList.getLast?.any Text.isWordChar = false) :
    StandsFree (Bytes.ascii t.beginning).toList (a ++ Bytes.ascii compact ++ b).toList := by
  obtain ⟨-, -, signature, -, rfl⟩ := sign_eq_ok_iff.mp h
  have hsplit : (a ++ Bytes.ascii (compactForm { t with signature }) ++ b).toList =
      a.toList ++ ((Bytes.ascii t.beginning).toList ++
        ((Bytes.ascii (Base64.encode .url signature)).toList ++ b.toList)) := by
    simp [Bytes.ascii, compactForm, beginning, signingInput]
  have hsignature : '.' ∉ (Bytes.ascii (Base64.encode .url signature)).toList :=
    Base64.not_mem_ascii_encode (by decide +kernel) _
  rw [hsplit]
  refine standsFree_between ?_ ha ?_ hword
  · simp [Bytes.ascii, beginning, dot]
  · simp [hsignature, hb]

theorem not_infix_redact_sample : ∃ compact,
    RecordedKey.sampleToken.sign RecordedKey.sample = .ok compact ∧
      ¬ (Bytes.ascii compact).toList <:+:
        (Redactor.redact {} ("bearer " ++ Bytes.ascii compact ++ " end")).toList := by
  have hsign := RecordedKey.sign_sampleToken
  have hfree := standsFree_of_sign hsign (show '.' ∉ "bearer ".toList by decide)
    (show '.' ∉ " end".toList by decide) (by decide)
  exact ⟨_, hsign, (not_infix_redact_of_sign hsign rfl hfree).2⟩

/-- Directly behind a letter a token is left as it is. -/
theorem redact_sample_behind_letter : ∃ compact,
    RecordedKey.sampleToken.sign RecordedKey.sample = .ok compact ∧
      (Bytes.ascii compact).toList <:+: ("x" ++ Bytes.ascii compact).toList ∧
      Redactor.redact {} ("x" ++ Bytes.ascii compact) = "x" ++ Bytes.ascii compact := by
  refine ⟨_, RecordedKey.sign_sampleToken, ?_, ?_⟩
  · rw [String.toList_append]
    exact List.infix_append_right
  · have htext (bs : Bytes) : ("x" ++ Bytes.ascii bs).toList =
        'x' :: bs.map fun b => Char.ofNat b.toNat := by
      rw [String.toList_append, Bytes.ascii]
      exact congrArg (['x'] ++ ·) String.toList_ofList
    have hclear : ∀ find ∈ [token, argon2, bcrypt], Clear find none ('x' ::
        (compactForm { RecordedKey.sampleToken with signature := RecordedKey.sample.signature }).map
          fun b => Char.ofNat b.toNat) := by
      decide +kernel
    simp only [List.forall_mem_cons, List.not_mem_nil, false_imp_iff, implies_true,
      and_true] at hclear
    rw [Redactor.redact_eq_iff, Redactor.redactChars_eq_self_iff, Redactor.clear_patterns_iff,
      htext]
    exact ⟨fun _ => hclear.1, fun _ => hclear.2⟩

end Token

end IdentityProvider
