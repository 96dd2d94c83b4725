import IdentityProvider.Proofs.Log.SignedTokens
import IdentityProvider.Service

/-!
# Following a token through the log

A redactor that tells tokens apart puts the fingerprint of a token in the place of the token,
and of nothing else (`redact_of_sign`): the text in front of it is kept, the text behind it
is redacted as if it stood alone. The fingerprint is what the service logs for the token, so
that the two can be brought together.
-/

namespace IdentityProvider

namespace SecretPattern

variable {find : SecretPattern} {mask : List Char → List Char} {before : Option Char}
  {c : Char} {part rest pre post secret shown shown' xs ys : List Char}

-- ----- Parts of a text

/-- What a part of a text becomes. What follows it is there when it is looked at, so that no
secret is cut, and is replaced as it would be behind it. -/
def Becomes (find : SecretPattern) (mask : List Char → List Char) (before : Option Char)
    (part rest shown : List Char) : Prop :=
  replaceFrom find mask before (part ++ rest) =
    shown ++ replaceFrom find mask (behind before part) rest

theorem Becomes.append (hxs : Becomes find mask before xs (ys ++ rest) shown)
    (hys : Becomes find mask (behind before xs) ys rest shown') :
    Becomes find mask before (xs ++ ys) rest (shown ++ shown') := by
  rw [Becomes, List.append_assoc, hxs, hys, behind_append, List.append_assoc]

theorem becomes_of_found (h : find before (secret ++ rest) = some secret) (hne : secret ≠ []) :
    Becomes find mask before secret rest (mask secret) := by
  obtain ⟨s, secret, rfl⟩ := List.exists_cons_of_ne_nil hne
  rw [List.cons_append] at h
  rw [Becomes, behind_cons_eq_some, List.cons_append, replaceFrom_of_found h, List.drop_left]

/-- A part is kept if there is nothing to replace at any place in it. -/
theorem becomes_self (h : ∀ xs ys, part = xs ++ ys → ys ≠ [] →
    Misses find (behind before xs) (ys ++ rest)) : Becomes find mask before part rest part := by
  induction part generalizing before with
  | nil => rfl
  | cons c part ih =>
    have hhere : Misses find before (c :: (part ++ rest)) := h [] _ rfl (List.cons_ne_nil _ _)
    have hpart : Becomes find mask (some c) part rest part := by
      refine ih fun xs ys heq hne => ?_
      rw [← behind_cons before]
      exact h (c :: xs) ys (by rw [heq, List.cons_append]) hne
    rw [Becomes, List.cons_append, replaceFrom_of_misses hhere, hpart, behind_cons,
      List.cons_append]

-- ----- Tokens between other texts

def tokenMark : List Char := ['e', 'y', 'J']

theorem beginsWithMark_of_token (h : token before xs = some secret) : tokenMark <+: xs := by
  obtain ⟨hsecret, header, claims, signature, rfl⟩ := token_eq_some h
  refine List.IsPrefix.trans ?_ hsecret
  rw [List.append_assoc]
  exact List.prefix_append _ _

/-- No token begins in a text without the mark of one that ends with no letter of a word. -/
theorem misses_token (hmark : ¬ tokenMark <:+: xs ++ ys) (hne : ys ≠ [])
    (hword : ys.getLast?.any Text.isWordChar = false) : Misses token before (ys ++ rest) := by
  intro s secret hfound
  have hletters : tokenMark.all Text.isWordChar := by decide +kernel
  have hbegins := beginsWithMark_of_token hfound
  rcases List.prefix_or_prefix_of_prefix hbegins (List.prefix_append ys rest) with hin | hacross
  · exact hmark (hin.isInfix.trans (List.suffix_append xs ys).isInfix)
  · -- A mark that goes on behind the text would make the last of the text a letter.
    have hlast := List.all_eq_true.mp hletters _ (hacross.subset (List.getLast_mem hne))
    rw [List.getLast?_eq_some_getLast hne, Option.any_some, hlast] at hword
    cases hword

/-- Behind what cannot go on with it, a text is replaced as if it stood alone. -/
theorem replaceFrom_token (hpost : ∀ c ∈ post.head?, isTokenChar c = false) :
    replaceFrom token mask before post = replace token mask post := by
  cases post with
  | nil => rw [replace, replaceFrom, replaceFrom]
  | cons c post =>
    have hmiss (b : Option Char) : Misses token b (c :: post) := by
      intro s secret hfound
      obtain ⟨hc, -⟩ := List.cons_prefix_cons.mp (beginsWithMark_of_token hfound)
      have hnot := hpost c rfl
      rw [← hc] at hnot
      cases hnot
    rw [replace, replaceFrom_of_misses (hmiss _), replaceFrom_of_misses (hmiss _)]

/-- What is a token by itself is one with other texts around it. -/
theorem token_append (h : token none secret = some secret)
    (hword : before.any Text.isWordChar = false)
    (hpost : ∀ c ∈ post.head?, isTokenChar c = false) :
    token before (secret ++ post) = some secret := by
  obtain ⟨-, ns, signature, rest, hns, hsignature, -, hsecret, -⟩ := token_eq_some_iff.mp h
  exact token_eq_some_iff.mpr ⟨hword, ns, signature, post, hns, hsignature, hpost, hsecret, rfl⟩

/-- A token between a text without the mark of one and a text that cannot go on with it. -/
theorem replace_token_between (h : token none secret = some secret) (hmark : ¬ tokenMark <:+: pre)
    (hword : pre.getLast?.any Text.isWordChar = false)
    (hpost : ∀ c ∈ post.head?, isTokenChar c = false) :
    replace token mask (pre ++ (secret ++ post)) =
      pre ++ (mask secret ++ replace token mask post) := by
  have hpre : Becomes token mask none pre (secret ++ post) pre := by
    refine becomes_self fun xs ys heq hne => misses_token (heq ▸ hmark) hne ?_
    have hlast : pre.getLast? = ys.getLast? := by
      rw [heq, List.getLast?_append, List.getLast?_eq_some_getLast hne, Option.some_or]
    rwa [← hlast]
  have hsecret : Becomes token mask (behind none pre) secret post (mask secret) := by
    refine becomes_of_found (token_append h ?_ hpost) (marked_token.ne_nil h)
    rwa [behind_none]
  have hboth := hpre.append hsecret
  rw [Becomes, replaceFrom_token hpost, List.append_assoc, List.append_assoc] at hboth
  exact hboth

end SecretPattern

open SecretPattern

-- ----- Signed tokens

namespace Token

variable [VerifyingKey P] [SigningKey K P] {t : Token} {key : K} {compact : Bytes} {r : Redactor}
  {pre post : String}

/-- The whole of a signed token is what is looked for. -/
theorem token_of_sign (h : t.sign key = .ok compact) :
    token none (Bytes.ascii compact).toList = some (Bytes.ascii compact).toList := by
  obtain ⟨-, -, signature, -, rfl⟩ := sign_eq_ok_iff.mp h
  refine token_eq_some_iff.mpr ⟨rfl, _, (Bytes.ascii (Base64.encode .url signature)).toList, [],
    t.isTokenStart_beginning, ?_, by simp, ?_, (List.append_nil _).symm⟩
  · simpa [Bytes.ascii] using fun b hb => isTokenChar_of_mem_encode hb
  · simp [Bytes.ascii, compactForm, beginning, signingInput]

/-- The service calls a token so in what it logs, when it cannot read the token and when it
has revoked it. -/
structure LoggedAs (K P : Type) [VerifyingKey P] [SigningKey K P] (compact : Bytes)
    (id : String) : Prop where
  unread : ∀ (s : Service K P) (e : IdentityError), (s.parse compact).result = .error e →
    ∃ event ∈ (s.parse compact).events, ("context", .text ("parse token " ++ id)) ∈ event.fields
  revoked : ∀ tokens : Storage TokenStore,
    (Service.revokeRefreshToken tokens compact).1.result = .ok () →
    ∃ event ∈ (Service.revokeRefreshToken tokens compact).1.events,
      ("token", .text id) ∈ event.fields

theorem loggedAs_fingerprint (compact : Bytes) : LoggedAs K P compact (fingerprint compact) where
  unread s e h := by
    unfold Service.parse Service.reported at h ⊢
    split at h
    · cases h
    · exact ⟨_, List.mem_cons_self, List.mem_cons_self⟩
  revoked tokens h := by
    unfold Service.revokeRefreshToken at h ⊢
    split at h
    · exact ⟨_, List.mem_cons_self, List.mem_cons_self⟩
    · cases h

theorem toList_mask (hr : r.correlation) (h : Bytes.ofString (Bytes.ascii compact) = compact) :
    r.mask "JWT" (Bytes.ascii compact).toList = ("JWT[" ++ fingerprint compact ++ "]").toList := by
  rw [Redactor.mask, if_pos hr, String.ofList_toList, h]
  rfl

/-- Exactly the token is replaced, by what the service calls it. -/
theorem redact_of_sign (h : t.sign key = .ok compact) (htokens : r.tokens)
    (hhashes : r.passwordHashes = false) (hcorrelation : r.correlation)
    (hmark : ¬ tokenMark <:+: pre.toList) (hword : pre.toList.getLast?.any Text.isWordChar = false)
    (hpost : ∀ c ∈ post.toList.head?, isTokenChar c = false) :
    Bytes.ofString (Bytes.ascii compact) = compact ∧
      r.redact (pre ++ Bytes.ascii compact ++ post) =
        pre ++ ("JWT[" ++ fingerprint compact ++ "]") ++ r.redact post ∧
      LoggedAs K P compact (fingerprint compact) := by
  have hcompact := ofString_of_sign h
  have htoken (cs : List Char) : r.redactChars cs = replace token (r.mask "JWT") cs := by
    rw [Redactor.redactChars_of_not_passwordHashes hhashes, Redactor.afterTokens, if_pos htokens]
  refine ⟨hcompact, String.toList_inj.mp ?_, loggedAs_fingerprint compact⟩
  calc (r.redact (pre ++ Bytes.ascii compact ++ post)).toList
    _ = replace token (r.mask "JWT")
        (pre.toList ++ ((Bytes.ascii compact).toList ++ post.toList)) := by
      simp only [Redactor.toList_redact, htoken, String.toList_append, List.append_assoc]
    _ = pre.toList ++ (r.mask "JWT" (Bytes.ascii compact).toList ++
        replace token (r.mask "JWT") post.toList) :=
      replace_token_between (token_of_sign h) hmark hword hpost
    _ = pre.toList ++ (("JWT[" ++ fingerprint compact ++ "]").toList ++
        r.redactChars post.toList) := by
      rw [toList_mask hcorrelation hcompact, htoken]
    _ = (pre ++ ("JWT[" ++ fingerprint compact ++ "]") ++ r.redact post).toList := by
      simp only [Redactor.toList_redact, String.toList_append, List.append_assoc]

/-- Between full stops the token is found. What looks like one behind it is not, since a letter
stands in front of it. -/
theorem redact_of_sign_sample : ∃ compact,
    RecordedKey.sampleToken.sign RecordedKey.sample = .ok compact ∧
      Redactor.redact { passwordHashes := false } ("Token." ++ Bytes.ascii compact ++ ". xeyJ.e.") =
        "Token." ++ ("JWT[" ++ fingerprint compact ++ "]") ++ ". xeyJ.e." := by
  have hsign := RecordedKey.sign_sampleToken
  have hpost : ∀ c ∈ ". xeyJ.e.".toList.head?, isTokenChar c = false := by
    rintro c ⟨⟩
    rfl
  have hmark : ¬ tokenMark <:+: "Token.".toList := by decide
  obtain ⟨-, hredact, -⟩ := redact_of_sign (r := { passwordHashes := false }) hsign rfl rfl rfl hmark
    (by decide +kernel) hpost
  have hrest : Redactor.redact { passwordHashes := false } ". xeyJ.e." = ". xeyJ.e." := by
    rw [Redactor.redact_eq_iff, Redactor.redactChars_eq_self_iff]
    decide +kernel
  rw [hrest] at hredact
  exact ⟨_, hsign, hredact⟩

end Token

end IdentityProvider
