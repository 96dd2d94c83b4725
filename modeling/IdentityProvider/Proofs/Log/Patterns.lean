import IdentityProvider.Proofs.Log.Replacing

/-!
# What the patterns find

What is found stands at the beginning of the text and has a dot or a dollar sign
in it, so a text with neither is left as it is (`Redactor.redactChars_eq_self`).
None of the patterns looks beyond a separator, and what is put between two
separators is redacted on its own (`Redactor.redactChars_append_cons`).
-/

namespace IdentityProvider

-- ----- Parts of a text

section

variable {α : Type} {p : α → Bool} {c : α} {cs xs ys : List α}

theorem after?_append_cons [DecidableEq α] {start : List α} (h : c ∉ start) :
    after? start (xs ++ c :: ys) = (after? start xs).map (· ++ c :: ys) := by
  induction start generalizing xs with
  | nil => rfl
  | cons a start ih =>
    have hne : a ≠ c := (List.ne_of_not_mem_cons h).symm
    cases xs with
    | nil => simp [after?, hne]
    | cons x xs =>
      by_cases hax : a = x
      · simp [after?, hax, ih (List.not_mem_of_not_mem_cons h)]
      · simp [after?, hax]

theorem takeWhile_append_cons (hc : p c = false) :
    (xs ++ c :: ys).takeWhile p = xs.takeWhile p := by
  induction xs with
  | nil => simp [hc]
  | cons x xs ih => cases hx : p x <;> simp [hx, ih]

theorem dropWhile_append_cons (hc : p c = false) :
    (xs ++ c :: ys).dropWhile p = xs.dropWhile p ++ c :: ys := by
  induction xs with
  | nil => simp [hc]
  | cons x xs ih => cases hx : p x <;> simp [hx, ih]

/-- A limit on the length changes nothing about where it ends. -/
theorem takeWhile_take_append_cons (hc : p c = false) (n : Nat) :
    ((xs ++ c :: ys).take n).takeWhile p = (xs.take n).takeWhile p := by
  induction xs generalizing n with
  | nil => cases n <;> simp [hc]
  | cons x xs ih =>
    cases n with
    | zero => rfl
    | succ n => cases hx : p x <;> simp [hx, ih]

theorem findSome?_congr {β : Type} {f g : α → Option β} (h : ∀ x ∈ xs, f x = g x) :
    xs.findSome? f = xs.findSome? g := by
  induction xs with
  | nil => rfl
  | cons x xs ih =>
    rw [List.findSome?_cons, List.findSome?_cons, h x List.mem_cons_self,
      ih fun y hy => h y (List.mem_cons_of_mem _ hy)]

theorem takeWhile_append_of_dropWhile (h : cs.dropWhile p = ys) : cs.takeWhile p ++ ys = cs := by
  rw [← h, List.takeWhile_append_dropWhile]

end

namespace SecretPattern

variable {before : Option Char} {c : Char} {cs rest secret : List Char}

-- ----- Shapes

theorem token_eq_some (h : token before cs = some secret) :
    secret <+: cs ∧ ∃ header claims signature,
      secret = ['e', 'y', 'J'] ++ header ++ '.' :: claims ++ '.' :: signature := by
  unfold token at h
  split at h
  · cases h
  simp only [Option.bind_eq_bind, Option.bind_eq_some_iff, after?_eq_some_iff] at h
  obtain ⟨rest, rfl, rest', hheader, rest'', hclaims, h⟩ := h
  split at h
  · cases h
  · cases h
    refine ⟨⟨rest''.dropWhile isTokenChar, ?_⟩, _, _, _, rfl⟩
    have hrest := takeWhile_append_of_dropWhile hheader
    have hrest' := takeWhile_append_of_dropWhile hclaims
    simp only [List.singleton_append] at hrest hrest'
    simp only [List.append_assoc, List.cons_append, List.takeWhile_append_dropWhile, hrest', hrest]

/-- The secret stands at the beginning of the text, and one of the starts at its own. -/
def BeginsWith (starts : List (List Char)) (cs secret : List Char) : Prop :=
  secret <+: cs ∧ ∃ start ∈ starts, start <+: secret

theorem BeginsWith.mem {starts : List (List Char)} (h : BeginsWith starts cs secret)
    (hc : ∀ start ∈ starts, c ∈ start) : c ∈ cs := by
  obtain ⟨hcs, start, hstart, hsecret⟩ := h
  exact hcs.subset (hsecret.subset (hc start hstart))

theorem argon2_eq_some (h : argon2 before cs = some secret) :
    BeginsWith argon2Starts cs secret := by
  obtain ⟨start, hstart, h⟩ := List.exists_of_findSome?_eq_some h
  obtain ⟨rest, hrest, h⟩ := Option.bind_eq_some_iff.mp h
  rw [after?_eq_some_iff] at hrest
  dsimp only at h
  split at h
  · cases h
  · cases h
    refine ⟨?_, start, hstart, List.prefix_append _ _⟩
    rw [hrest, List.prefix_append_right_inj]
    exact List.takeWhile_prefix _

theorem prefix_of_bcryptRest (h : bcryptRest cs = some rest) : rest <+: cs := by
  unfold bcryptRest at h
  split at h
  · rename_i a b cs
    dsimp only at h
    split at h
    · cases h
      have hbody : (cs.take bcryptBodyLength).takeWhile isBcryptChar <+: cs :=
        (List.takeWhile_prefix _).trans (List.take_prefix _ _)
      exact List.cons_prefix_cons.mpr ⟨rfl, List.cons_prefix_cons.mpr ⟨rfl,
        List.cons_prefix_cons.mpr ⟨rfl, hbody⟩⟩⟩
    · cases h
  · cases h

theorem bcrypt_eq_some (h : bcrypt before cs = some secret) :
    BeginsWith bcryptVersions cs secret := by
  obtain ⟨version, hversion, h⟩ := List.exists_of_findSome?_eq_some h
  obtain ⟨rest, hrest, h⟩ := Option.bind_eq_some_iff.mp h
  obtain ⟨body, hbody, rfl⟩ := Option.map_eq_some_iff.mp h
  rw [after?_eq_some_iff] at hrest
  refine ⟨?_, version, hversion, List.prefix_append _ _⟩
  rw [hrest, List.prefix_append_right_inj]
  exact prefix_of_bcryptRest hbody

theorem dollar_mem_of_argon2 (h : argon2 before cs = some secret) : '$' ∈ cs :=
  (argon2_eq_some h).mem (by decide)

theorem dollar_mem_of_bcrypt (h : bcrypt before cs = some secret) : '$' ∈ cs :=
  (bcrypt_eq_some h).mem (by decide)

theorem dot_mem_of_token (h : token before cs = some secret) : '.' ∈ cs := by
  obtain ⟨hcs, header, claims, signature, rfl⟩ := token_eq_some h
  exact hcs.subset (by simp)

-- ----- Separators

/-- A character that a secret may have, or that keeps a token behind it from beginning. -/
def isSecretChar (c : Char) : Bool :=
  Text.isWordChar c || Text.isDecimalDigit c || ['-', '.', '$', '=', ',', '+', '/'].contains c

/-- No secret goes on beyond such a character, and a token may begin behind it. -/
def Separates (c : Char) : Prop := isSecretChar c = false

theorem isWordChar_of_isLetterOrFigure (h : isLetterOrFigure c) : Text.isWordChar c := by
  change (decide (65 ≤ c.val ∧ c.val ≤ 90) || (decide (97 ≤ c.val) && decide (c.val ≤ 122)) ||
    (decide (48 ≤ c.val) && decide (c.val ≤ 57))) = true at h
  simp only [Bool.or_eq_true, Bool.and_eq_true, decide_eq_true_eq, UInt32.le_iff_toNat_le] at h
  change ((65 ≤ c.toNat ∧ c.toNat ≤ 90) ∨ (97 ≤ c.toNat ∧ c.toNat ≤ 122)) ∨
    (48 ≤ c.toNat ∧ c.toNat ≤ 57) at h
  obtain ⟨more, hmore⟩ : ∃ more, Text.wordRanges =
      (0x30, 0x39) :: (0x41, 0x5A) :: (0x5F, 0x5F) :: (0x61, 0x7A) :: more := ⟨_, rfl⟩
  rw [Text.isWordChar, hmore]
  simp only [Text.Ranges.holds]
  generalize c.toNat = n at h ⊢
  grind

namespace Separates

theorem not_mem (h : Separates c) {ds : List Char} (hds : ds.all isSecretChar) : c ∉ ds := by
  intro hc
  have hsecret := List.all_eq_true.mp hds c hc
  rw [h] at hsecret
  cases hsecret

theorem isWordChar (h : Separates c) : Text.isWordChar c = false := by
  simp only [Separates, isSecretChar, Bool.or_eq_false_iff] at h
  exact h.1.1

theorem isDecimalDigit (h : Separates c) : Text.isDecimalDigit c = false := by
  simp only [Separates, isSecretChar, Bool.or_eq_false_iff] at h
  exact h.1.2

theorem isLetterOrFigure (h : Separates c) : isLetterOrFigure c = false := by
  cases hletter : SecretPattern.isLetterOrFigure c with
  | false => rfl
  | true =>
    have hword := isWordChar_of_isLetterOrFigure hletter
    rw [h.isWordChar] at hword
    cases hword

theorem isTokenChar (h : Separates c) : isTokenChar c = false := by
  have hother : c ∉ ['_', '-'] := h.not_mem rfl
  simpa [SecretPattern.isTokenChar, h.isLetterOrFigure] using hother

theorem isArgon2Char (h : Separates c) : isArgon2Char c = false := by
  have hother : c ∉ ['=', ',', '+', '/', '$'] := h.not_mem rfl
  simpa [SecretPattern.isArgon2Char, h.isLetterOrFigure, and_assoc] using hother

theorem isBcryptChar (h : Separates c) : isBcryptChar c = false := by
  have hother : c ∉ ['.', '/'] := h.not_mem rfl
  simpa [SecretPattern.isBcryptChar, h.isLetterOrFigure] using hother

end Separates

theorem separates_space : Separates ' ' := rfl

theorem token_stopsAt (h : Separates c) : StopsAt token c where
  behind cs := by simp [token, h.isWordChar]
  inside before xs ys := by
    have hstart : c ∉ ['e', 'y', 'J'] := h.not_mem rfl
    have hdot : c ∉ ['.'] := h.not_mem rfl
    simp only [token, after?_append_cons hstart, after?_append_cons hdot, Option.bind_eq_bind,
      Option.bind_map, Function.comp_def, dropWhile_append_cons h.isTokenChar,
      takeWhile_append_cons h.isTokenChar]

theorem argon2_stopsAt (h : Separates c) : StopsAt argon2 c where
  behind cs := rfl
  inside before xs ys := by
    have hstarts : ∀ start ∈ argon2Starts, start.all isSecretChar := by decide
    refine findSome?_congr fun start hstart => ?_
    simp only [after?_append_cons (h.not_mem (hstarts start hstart)), Option.bind_map,
      Function.comp_def, takeWhile_append_cons h.isArgon2Char]

theorem bcryptRest_append_cons (h : Separates c) (xs ys : List Char) :
    bcryptRest (xs ++ c :: ys) = bcryptRest xs := by
  have hdollar : c ∉ ['$'] := h.not_mem rfl
  have hdigit := h.isDecimalDigit
  match xs with
  | [] | [_] | [_, _] =>
    -- The character stands where a digit or the dollar sign would have to be.
    unfold bcryptRest
    split
    · simp_all
    · simp
  | a :: b :: d :: xs =>
    by_cases hd : d = '$'
    · subst hd
      simp only [List.cons_append, bcryptRest, takeWhile_take_append_cons h.isBcryptChar]
    · simp [bcryptRest, hd]

theorem bcrypt_stopsAt (h : Separates c) : StopsAt bcrypt c where
  behind cs := rfl
  inside before xs ys := by
    have hversions : ∀ version ∈ bcryptVersions, version.all isSecretChar := by decide
    refine findSome?_congr fun version hversion => ?_
    simp only [after?_append_cons (h.not_mem (hversions version hversion)), Option.bind_map,
      Function.comp_def, bcryptRest_append_cons h]

end SecretPattern

namespace Redactor

open SecretPattern

variable {r : Redactor} {c : Char} {cs xs ys : List Char}

-- ----- All patterns in turn

/-- What holds of the three patterns holds of those that are looked for. -/
theorem forall_mem_patterns (P : SecretPattern → Prop) (htoken : P .token) (hargon2 : P .argon2)
    (hbcrypt : P .bcrypt) : ∀ p ∈ r.patterns, P p.1 := by
  unfold patterns
  cases r.tokens <;> cases r.passwordHashes <;> simp [htoken, hargon2, hbcrypt]

/-- There is nothing to mask in a text without dots and dollar signs. -/
theorem redactChars_eq_self (hdot : '.' ∉ cs) (hdollar : '$' ∉ cs) : r.redactChars cs = cs := by
  have hkept := r.forall_mem_patterns (fun find => ∀ mask, replace find mask cs = cs)
    (fun _ => replaceFrom_of_not_mem (fun _ _ _ => dot_mem_of_token) hdot)
    (fun _ => replaceFrom_of_not_mem (fun _ _ _ => dollar_mem_of_argon2) hdollar)
    (fun _ => replaceFrom_of_not_mem (fun _ _ _ => dollar_mem_of_bcrypt) hdollar)
  unfold redactChars
  generalize r.patterns = ps at hkept
  induction ps with
  | nil => rfl
  | cons p ps ih =>
    obtain ⟨hp, hps⟩ := List.forall_mem_cons.mp hkept
    rw [List.foldl_cons, hp, ih hps]

theorem redactChars_nil (r : Redactor) : r.redactChars [] = [] :=
  redactChars_eq_self List.not_mem_nil List.not_mem_nil

/-- The two sides of a separator are redacted on their own. -/
theorem redactChars_append_cons (h : Separates c) :
    r.redactChars (xs ++ c :: ys) = r.redactChars xs ++ c :: r.redactChars ys := by
  have hcut := r.forall_mem_patterns (fun find => FindsPrefixes find ∧ StopsAt find c)
    ⟨fun _ _ _ hfound => (token_eq_some hfound).1, token_stopsAt h⟩
    ⟨fun _ _ _ hfound => (argon2_eq_some hfound).1, argon2_stopsAt h⟩
    ⟨fun _ _ _ hfound => (bcrypt_eq_some hfound).1, bcrypt_stopsAt h⟩
  unfold redactChars
  generalize r.patterns = ps at hcut
  induction ps generalizing xs ys with
  | nil => rfl
  | cons p ps ih =>
    obtain ⟨⟨hfinds, hstops⟩, hps⟩ := List.forall_mem_cons.mp hcut
    simp only [List.foldl_cons, replace_append_cons hfinds hstops, ih hps]

-- ----- Texts set apart

/-- The text is empty or ends with a separator. -/
def EndsApart (xs : List Char) : Prop := ∀ c ∈ xs.getLast?, Separates c

/-- The text is empty or begins with a separator. -/
def BeginsApart (xs : List Char) : Prop := ∀ c ∈ xs.head?, Separates c

theorem redactChars_append_of_endsApart (h : EndsApart xs) :
    r.redactChars (xs ++ ys) = r.redactChars xs ++ r.redactChars ys := by
  rcases List.eq_nil_or_concat xs with rfl | ⟨xs, c, rfl⟩
  · rw [redactChars_nil, List.nil_append, List.nil_append]
  · rw [List.concat_eq_append] at h ⊢
    have hc : Separates c := h c (by simp)
    simp only [List.append_assoc, List.singleton_append, redactChars_append_cons hc,
      redactChars_nil]

theorem redactChars_append_of_beginsApart (h : BeginsApart ys) :
    r.redactChars (xs ++ ys) = r.redactChars xs ++ r.redactChars ys := by
  cases ys with
  | nil => rw [redactChars_nil, List.append_nil, List.append_nil]
  | cons c ys =>
    have hc : Separates c := h c rfl
    have hbehind : r.redactChars (c :: ys) = r.redactChars [] ++ c :: r.redactChars ys := by
      rw [← redactChars_append_cons hc, List.nil_append]
    rw [redactChars_append_cons hc, hbehind, redactChars_nil, List.nil_append]

-- ----- Strings

theorem toList_redact (r : Redactor) (text : String) :
    (r.redact text).toList = r.redactChars text.toList :=
  String.toList_ofList

theorem redact_eq_self {text : String} (hdot : '.' ∉ text.toList) (hdollar : '$' ∉ text.toList) :
    r.redact text = text := by
  rw [redact, redactChars_eq_self hdot hdollar, String.ofList_toList]

/-- A text that is set apart from what stands around it is redacted on its own. -/
theorem redact_between {a b text : String} (ha : EndsApart a.toList) (hb : BeginsApart b.toList) :
    r.redact (a ++ text ++ b) = r.redact a ++ r.redact text ++ r.redact b := by
  apply String.toList_inj.mp
  simp only [toList_redact, String.toList_append, redactChars_append_of_beginsApart hb,
    redactChars_append_of_endsApart ha]

end Redactor

end IdentityProvider
