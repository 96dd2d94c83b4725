import IdentityProvider.Proofs.Log.Shapes

/-!
# What redacting leaves

Each pattern is looked for once, so a mask may bring about what was looked for before it was
put there. For tokens and Argon2 hashes it cannot: both go on as far as they can. A bcrypt
hash is masked wherever it stands, and the mask ends what its last letter kept from being
found: a token directly behind it, or another hash in front of it that its label completes.
There is nothing else that a redacted text has (`leaves_redact`): each time a bcrypt hash was
masked at that very place (`Masks`), and a text in which none is masked is not changed by
redacting it again.
-/

namespace IdentityProvider

open SecretPattern

namespace SecretPattern

variable {find : SecretPattern} {mask : List Char → List Char} {before : Option Char}
  {cs ns xs ys front rest secret : List Char}

/-- The pattern does not end what it finds in front of a token. -/
def Swallows (find : SecretPattern) : Prop :=
  ∀ before secret rest, find before (secret ++ rest) = some secret → rest.head? ≠ some 'e'

/-- The pattern looks for what begins with a dollar sign. -/
def BeginsWithDollar (find : SecretPattern) : Prop :=
  ∀ before cs s secret, find before cs = some (s :: secret) → s = '$'

theorem swallows_token : Swallows token := by
  intro before secret rest h hhead
  have hnot := token_ends h 'e' hhead
  cases hnot

theorem swallows_argon2 : Swallows argon2 := by
  intro before secret rest h hhead
  have hnot := argon2_ends h 'e' hhead
  cases hnot

theorem beginsWithDollar_of_beginsWith {starts : List (List Char)}
    (hstarts : ∀ start ∈ starts, start.head? = some '$')
    (h : ∀ before cs secret, find before cs = some secret → BeginsWith starts cs secret) :
    BeginsWithDollar find := by
  intro before cs s secret hfound
  obtain ⟨-, start, hstart, hbegins⟩ := h _ _ _ hfound
  obtain ⟨more, hmore⟩ := hbegins
  obtain ⟨rest, rfl⟩ := List.head?_eq_some_iff.mp (hstarts start hstart)
  exact (List.cons.inj hmore).1.symm

theorem beginsWithDollar_argon2 : BeginsWithDollar argon2 :=
  beginsWithDollar_of_beginsWith (by decide) fun _ _ _ => argon2_eq_some

theorem beginsWithDollar_bcrypt : BeginsWithDollar bcrypt :=
  beginsWithDollar_of_beginsWith (by decide) fun _ _ _ => bcrypt_eq_some

section

variable (hmask : ∀ secret, IsMask (mask secret))

include hmask

-- ----- Tokens in a replaced text

/-- A token was there before and not found, or what stood in front of it is masked. -/
theorem token_replaced (hfind : Marked find) (h : replace find mask cs = front ++ rest)
    (hfound : token front.getLast? rest ≠ none) :
    (∃ xs ys, cs = xs ++ ys ∧ token xs.getLast? ys ≠ none ∧ find xs.getLast? ys = none) ∨
      ∃ before secret xs ns ys, cs = xs ++ (secret ++ (ns ++ ys)) ∧ IsTokenStart ns ∧
        find xs.getLast? (secret ++ (ns ++ ys)) = some secret ∧ front = before ++ mask secret ∧
        Masks find mask cs before secret rest := by
  obtain ⟨hword, ns, hns, hbegins⟩ := token_ne_none_iff.mp hfound
  obtain ⟨as, bs, hparts, rfl, hrest⟩ := parts_of_needle hmask hns.isNeedle h hbegins
  obtain ⟨hsource, hmiss⟩ := misses_of_needle hfind.findsPrefixes hns.isNeedle hparts
  rcases getLast?_shown mask as with hsame | ⟨init, secret, rfl⟩
  · left
    refine ⟨original as, ns ++ original bs, hsource, ?_, hfind.misses_iff.mp hmiss⟩
    exact token_ne_none_iff.mpr ⟨by rw [← hsame, hword], ns, hns, List.prefix_append _ _⟩
  · right
    rw [List.append_assoc, List.singleton_append] at hparts
    have hsecret := found_of_parts (parts_behind hfind.findsPrefixes hparts)
    refine ⟨shown mask init, secret, original init, ns, original bs, ?_, hns, ?_, by simp [shown],
      init, _, hparts, rfl, ?_⟩
    · simpa [original] using hsource
    · simpa [original] using hsecret
    · rw [hrest, shown_append, shown_map_kept]

theorem clear_token_replace (hfind : Marked find) (hswallows : Swallows find)
    (h : find = token ∨ Clear token none cs) : Clear token none (replace find mask cs) := by
  intro front rest heq
  rw [behind_none]
  refine Decidable.byContradiction fun hfound => ?_
  rcases token_replaced hmask hfind heq hfound with
    ⟨xs, ys, hsource, hthere, hmiss⟩ | ⟨before, secret, xs, ns, ys, -, hns, hsecret, -⟩
  · rcases h with rfl | h
    · exact hthere hmiss
    · exact hthere (by simpa using h xs ys hsource)
  · exact hswallows _ _ _ hsecret (hns.head?_append _)

/-- A token behind the mask of a secret was kept from being found by the last letter of it. -/
theorem token_behind_mask (hfind : Marked find) (h : Clear token none cs)
    (heq : replace find mask cs = front ++ rest) (hfound : token front.getLast? rest ≠ none) :
    ∃ before secret c, front = before ++ mask secret ∧ Masks find mask cs before secret rest ∧
      secret.getLast? = some c ∧ Text.isWordChar c := by
  rcases token_replaced hmask hfind heq hfound with ⟨xs, ys, hsource, hthere, -⟩ |
    ⟨before, secret, xs, ns, ys, hsource, hns, hsecret, hfront, hmasks⟩
  · exact (hthere (by simpa using h xs ys hsource)).elim
  · have hlast := List.getLast?_eq_some_getLast (hfind.ne_nil hsecret)
    refine ⟨before, secret, _, hfront, hmasks, hlast, ?_⟩
    have hnone := h (xs ++ secret) (ns ++ ys) (by rw [hsource, List.append_assoc])
    refine Decidable.byContradiction fun hword => ?_
    refine token_ne_none_iff.mpr ⟨?_, ns, hns, List.prefix_append _ _⟩ hnone
    simpa [List.getLast?_append, hlast] using hword

-- ----- Argon2 hashes in a replaced text

theorem argon2_replaced (hfind : Marked find) (hdollar : BeginsWithDollar find)
    (h : replace find mask cs = front ++ rest) (hfound : argon2 before rest ≠ none) :
    ∃ xs ys, cs = xs ++ ys ∧ (∀ b, argon2 b ys ≠ none) ∧ find xs.getLast? ys = none := by
  obtain ⟨start, hstart, c, hc, hbegins⟩ := argon2_ne_none_iff.mp hfound
  have hneedle := isNeedle_of_mem_argon2Starts hstart
  obtain ⟨as, bs, hparts, -, rfl⟩ :=
    parts_of_needle hmask hneedle h ((List.prefix_append start [c]).trans hbegins)
  obtain ⟨hsource, hmiss⟩ := misses_of_needle hfind.findsPrefixes hneedle hparts
  refine ⟨original as, start ++ original bs, hsource, fun b => ?_, hfind.misses_iff.mp hmiss⟩
  rw [List.prefix_append_right_inj] at hbegins
  -- A mask stands for a secret that begins with a dollar sign, which a hash may go on with.
  obtain ⟨d, hd, hthere⟩ : ∃ d, isArgon2Char d ∧ [d] <+: original bs := by
    cases bs with
    | nil => exact (List.cons_ne_nil _ _ (List.prefix_nil.mp hbegins)).elim
    | cons p bs =>
      cases p with
      | kept y =>
        obtain ⟨rfl, -⟩ := List.cons_prefix_cons.mp hbegins
        exact ⟨c, hc, by simp [original]⟩
      | masked secret =>
        rw [← List.append_assoc] at hparts
        have hsecret := found_of_parts (parts_behind hfind.findsPrefixes hparts)
        obtain ⟨s, secret, rfl⟩ := List.exists_cons_of_ne_nil (hfind.ne_nil hsecret)
        obtain rfl := hdollar _ _ _ _ hsecret
        exact ⟨'$', rfl, by simp [original]⟩
  refine argon2_ne_none_iff.mpr ⟨start, hstart, d, hd, ?_⟩
  rwa [List.prefix_append_right_inj]

theorem clear_argon2_replace (hfind : Marked find) (hdollar : BeginsWithDollar find)
    (h : find = argon2 ∨ Clear argon2 none cs) : Clear argon2 none (replace find mask cs) := by
  intro front rest heq
  refine Decidable.byContradiction fun hfound => ?_
  obtain ⟨xs, ys, hsource, hthere, hmiss⟩ := argon2_replaced hmask hfind hdollar heq hfound
  rcases h with rfl | h
  · exact hthere _ hmiss
  · exact hthere _ (h xs ys hsource)

-- ----- bcrypt hashes in a replaced text

theorem bcrypt_replaced (h : replace bcrypt mask cs = front ++ rest)
    (hfound : bcrypt before rest = some secret) :
    ∃ kept part hash more, secret = kept ++ part ∧ part ≠ [] ∧ '[' ∉ part ∧ part <+: mask hash ∧
      rest = kept ++ (mask hash ++ more) ∧ Masks bcrypt mask cs (front ++ kept) hash more := by
  obtain ⟨ns, body, hns, ⟨hlength, hbody⟩, rfl, hbegins⟩ := bcrypt_eq_some_iff.mp hfound
  obtain ⟨as, bs, hparts, rfl, rfl⟩ :=
    parts_of_needle hmask hns.isNeedle h ((List.prefix_append ns body).trans hbegins)
  rw [List.prefix_append_right_inj] at hbegins
  have hopening : '[' ∉ body := fun hmem => absurd (hbody _ hmem) (by decide)
  rcases prefix_or_completed hmask hopening hbegins with
    hthere | ⟨kept, part, hash, bs, rfl, hne, hpart, rfl⟩
  · obtain ⟨-, hmiss⟩ := misses_of_needle marked_bcrypt.findsPrefixes hns.isNeedle hparts
    have hfind : bcrypt (original as).getLast? (ns ++ original bs) = some (ns ++ body) := by
      refine bcrypt_eq_some_iff.mpr ⟨ns, body, hns, ⟨hlength, hbody⟩, rfl, ?_⟩
      rwa [List.prefix_append_right_inj]
    rw [marked_bcrypt.misses_iff, hfind] at hmiss
    cases hmiss
  · refine ⟨ns ++ kept, part, hash, shown mask bs, by rw [List.append_assoc], hne, ?_, hpart,
      by simp [shown], as ++ ((ns ++ kept).map .kept), bs, ?_, by simp, rfl⟩
    · exact fun hmem => hopening (List.mem_append_right kept hmem)
    · rw [hparts, List.map_append]
      simp only [List.append_assoc]

end

end SecretPattern

namespace Redactor

variable {r : Redactor} {cs : List Char}

-- ----- Redacting again

section

variable {ps : List (SecretPattern × String)}
  (hps : ∀ p ∈ ps, Marked p.1 ∧ ∀ secret, IsMask (r.mask p.2 secret))

include hps

theorem countP_foldl_replace_le : (ps.foldl (fun cs p => replace p.1 (r.mask p.2) cs) cs).countP
    isMark ≤ cs.countP isMark := by
  induction ps generalizing cs with
  | nil => exact Nat.le_refl _
  | cons p ps ih =>
    obtain ⟨⟨hfind, hmask⟩, hps⟩ := List.forall_mem_cons.mp hps
    rw [List.foldl_cons]
    refine Nat.le_trans (ih hps) ?_
    rcases clear_or_countP_lt hfind hmask with ⟨-, heq⟩ | hlt
    · exact Nat.le_of_eq (congrArg _ heq)
    · exact Nat.le_of_lt hlt

/-- No replacing adds a mark, so what a first one has taken away does not come back. -/
theorem foldl_replace_eq_self_iff :
    ps.foldl (fun cs p => replace p.1 (r.mask p.2) cs) cs = cs ↔ ∀ p ∈ ps, Clear p.1 none cs := by
  induction ps with
  | nil => simp
  | cons p ps ih =>
    obtain ⟨⟨hfind, hmask⟩, hps⟩ := List.forall_mem_cons.mp hps
    rw [List.foldl_cons, List.forall_mem_cons]
    rcases clear_or_countP_lt hfind hmask with ⟨hclear, heq⟩ | hlt
    · rw [replace, heq]
      exact (ih hps).trans (and_iff_right hclear).symm
    · constructor
      · intro h
        have hless := Nat.lt_of_le_of_lt (countP_foldl_replace_le hps) hlt
        rw [← replace, h] at hless
        exact (Nat.lt_irrefl _ hless).elim
      · rintro ⟨hclear, -⟩
        rw [replaceFrom_of_clear hclear] at hlt
        exact (Nat.lt_irrefl _ hlt).elim

end

theorem forall_patterns (r : Redactor) :
    ∀ p ∈ r.patterns, Marked p.1 ∧ ∀ secret, IsMask (r.mask p.2 secret) := by
  have htoken := And.intro marked_token (r.isMask_mask (.inl rfl))
  have hargon2 := And.intro marked_argon2 (r.isMask_mask (.inr rfl))
  have hbcrypt := And.intro marked_bcrypt (r.isMask_mask (.inr rfl))
  unfold patterns
  cases r.tokens <;> cases r.passwordHashes <;> simp [htoken, hargon2, hbcrypt]

theorem redactChars_eq_self_iff :
    r.redactChars cs = cs ↔ ∀ p ∈ r.patterns, Clear p.1 none cs :=
  foldl_replace_eq_self_iff r.forall_patterns

theorem clear_patterns_iff : (∀ p ∈ r.patterns, Clear p.1 none cs) ↔
    (r.tokens → Clear token none cs) ∧
      (r.passwordHashes → Clear argon2 none cs ∧ Clear bcrypt none cs) := by
  unfold patterns
  cases r.tokens <;> cases r.passwordHashes <;> simp

-- ----- What is left

/-- The text when tokens have been looked for. -/
def afterTokens (r : Redactor) (cs : List Char) : List Char :=
  if r.tokens then replace token (r.mask "JWT") cs else cs

/-- The text when Argon2 hashes have been looked for as well. -/
def afterArgon2 (r : Redactor) (cs : List Char) : List Char :=
  replace argon2 (r.mask "HASH") (r.afterTokens cs)

theorem redactChars_of_passwordHashes (h : r.passwordHashes) :
    r.redactChars cs = replace bcrypt (r.mask "HASH") (r.afterArgon2 cs) := by
  unfold redactChars patterns afterArgon2 afterTokens
  cases r.tokens <;> simp [h]

theorem redactChars_of_not_passwordHashes (h : r.passwordHashes = false) :
    r.redactChars cs = r.afterTokens cs := by
  unfold redactChars patterns afterTokens
  cases r.tokens <;> simp [h]

theorem clear_afterTokens (h : r.tokens) : Clear token none (r.afterTokens cs) := by
  rw [afterTokens, if_pos h]
  exact clear_token_replace (r.isMask_mask (.inl rfl)) marked_token swallows_token (.inl rfl)

/-- A needle that is left stood at a place where no token was found. -/
theorem source_of_infix_redactChars (htokens : r.tokens) {ns : List Char} (hns : IsNeedle ns)
    (h : ns <:+: r.redactChars cs) :
    ∃ xs ys, cs = xs ++ (ns ++ ys) ∧ token xs.getLast? (ns ++ ys) = none := by
  have hmask := r.isMask_mask (.inr rfl)
  have hafter : ns <:+: r.afterTokens cs := by
    cases hhashes : r.passwordHashes with
    | false => rwa [redactChars_of_not_passwordHashes hhashes] at h
    | true =>
      rw [redactChars_of_passwordHashes hhashes] at h
      obtain ⟨xs, ys, heq, -⟩ := source_of_infix_replace hmask marked_bcrypt.findsPrefixes hns h
      have hgiven : ns <:+: r.afterArgon2 cs := ⟨xs, ys, by rw [heq, List.append_assoc]⟩
      obtain ⟨xs, ys, heq, -⟩ :=
        source_of_infix_replace hmask marked_argon2.findsPrefixes hns hgiven
      exact ⟨xs, ys, by rw [heq, List.append_assoc]⟩
  rw [afterTokens, if_pos htokens] at hafter
  obtain ⟨xs, ys, heq, hmiss⟩ :=
    source_of_infix_replace (r.isMask_mask (.inl rfl)) marked_token.findsPrefixes hns hafter
  exact ⟨xs, ys, heq, marked_token.misses_iff.mp hmiss⟩

/-- The last pass over the text comes upon a bcrypt hash and masks it. -/
def MasksBcrypt (r : Redactor) (text : String) (front hash rest : List Char) : Prop :=
  Masks bcrypt (r.mask "HASH") (r.afterArgon2 text.toList) front hash rest

/-- What is left to be found when the text has been redacted, and what redacting it again does. -/
structure Leaves (r : Redactor) (text : String) : Prop where
  /-- What is masked was found in the text, and its mask is where it was. -/
  masked : r.passwordHashes → ∀ front hash rest, r.MasksBcrypt text front hash rest →
    (∃ xs ys, r.afterArgon2 text.toList = xs ++ (hash ++ ys) ∧
      bcrypt xs.getLast? (hash ++ ys) = some hash) ∧
    (r.redact text).toList = front ++ (r.mask "HASH" hash ++ rest)
  argon2 : r.passwordHashes → Clear argon2 none (r.redact text).toList
  /-- A token is behind the mask of a bcrypt hash whose last letter kept it from being found. -/
  token : r.tokens → ∀ front rest, (r.redact text).toList = front ++ rest →
    token front.getLast? rest ≠ none → r.passwordHashes ∧ ∃ before hash c,
      front = before ++ r.mask "HASH" hash ∧ r.MasksBcrypt text before hash rest ∧
      hash.getLast? = some c ∧ Text.isWordChar c
  /-- A bcrypt hash is completed by the label of the mask of another. -/
  bcrypt : r.passwordHashes → ∀ front rest secret, (r.redact text).toList = front ++ rest →
    bcrypt front.getLast? rest = some secret → ∃ kept part hash more, secret = kept ++ part ∧
      part ≠ [] ∧ part <+: "HASH".toList ∧ rest = kept ++ (r.mask "HASH" hash ++ more) ∧
      r.MasksBcrypt text (front ++ kept) hash more
  again_iff : r.redact (r.redact text) = r.redact text ↔
    ∀ p ∈ r.patterns, Clear p.1 none (r.redact text).toList
  /-- If no bcrypt hash is masked there is nothing left. -/
  settled : (r.passwordHashes → ∀ front hash rest, ¬ r.MasksBcrypt text front hash rest) →
    r.redact (r.redact text) = r.redact text

theorem masked_of_masksBcrypt (hhashes : r.passwordHashes) {text : String}
    {front hash rest : List Char} (h : r.MasksBcrypt text front hash rest) :
    (∃ xs ys, r.afterArgon2 text.toList = xs ++ (hash ++ ys) ∧
      SecretPattern.bcrypt xs.getLast? (hash ++ ys) = some hash) ∧
      (r.redact text).toList = front ++ (r.mask "HASH" hash ++ rest) := by
  rw [toList_redact, redactChars_of_passwordHashes hhashes]
  exact ⟨h.found marked_bcrypt.findsPrefixes, h.replace_eq⟩

theorem token_left (htokens : r.tokens) {text : String} {front rest : List Char}
    (h : (r.redact text).toList = front ++ rest) (hfound : token front.getLast? rest ≠ none) :
    r.passwordHashes ∧ ∃ before hash c, front = before ++ r.mask "HASH" hash ∧
      r.MasksBcrypt text before hash rest ∧ hash.getLast? = some c ∧ Text.isWordChar c := by
  have hclear : Clear token none (r.afterTokens text.toList) := clear_afterTokens htokens
  rw [toList_redact] at h
  cases hhashes : r.passwordHashes with
  | false =>
    rw [redactChars_of_not_passwordHashes hhashes] at h
    exact (hfound (by simpa using hclear front rest h)).elim
  | true =>
    rw [redactChars_of_passwordHashes hhashes] at h
    have hmask := r.isMask_mask (.inr rfl)
    have hargon2 : Clear token none (r.afterArgon2 text.toList) :=
      clear_token_replace hmask marked_argon2 swallows_argon2 (.inr hclear)
    exact ⟨rfl, token_behind_mask hmask marked_bcrypt hargon2 h hfound⟩

theorem argon2_left (hhashes : r.passwordHashes) : Clear argon2 none (r.redactChars cs) := by
  have hmask := r.isMask_mask (.inr rfl)
  rw [redactChars_of_passwordHashes hhashes]
  have hfirst : Clear argon2 none (r.afterArgon2 cs) :=
    clear_argon2_replace hmask marked_argon2 beginsWithDollar_argon2 (.inl rfl)
  exact clear_argon2_replace hmask marked_bcrypt beginsWithDollar_bcrypt (.inr hfirst)

theorem prefix_label {label part more : List Char} (h : part <+: label ++ '[' :: more)
    (hpart : '[' ∉ part) : part <+: label := by
  rcases List.prefix_or_prefix_of_prefix h (List.prefix_append label _) with hshort | ⟨rest, rfl⟩
  · exact hshort
  · rw [List.prefix_append_right_inj] at h
    cases rest with
    | nil => simp
    | cons c rest =>
      obtain ⟨rfl, -⟩ := List.cons_prefix_cons.mp h
      exact (hpart (by simp)).elim

theorem bcrypt_left (hhashes : r.passwordHashes) {text : String} {front rest secret : List Char}
    (h : (r.redact text).toList = front ++ rest)
    (hfound : bcrypt front.getLast? rest = some secret) :
    ∃ kept part hash more, secret = kept ++ part ∧ part ≠ [] ∧ part <+: "HASH".toList ∧
      rest = kept ++ (r.mask "HASH" hash ++ more) ∧
      r.MasksBcrypt text (front ++ kept) hash more := by
  rw [toList_redact, redactChars_of_passwordHashes hhashes] at h
  obtain ⟨kept, part, hash, more, rfl, hne, hopening, hpart, rfl, hmasks⟩ :=
    bcrypt_replaced (r.isMask_mask (.inr rfl)) h hfound
  obtain ⟨inner, hinner⟩ : ∃ inner, r.mask "HASH" hash = "HASH".toList ++ '[' :: inner := by
    simp only [mask, String.toList_append, List.append_assoc]
    exact ⟨_, rfl⟩
  rw [hinner] at hpart
  exact ⟨kept, part, hash, more, rfl, hne, prefix_label hpart hopening, rfl, hmasks⟩

theorem redact_eq_iff {text : String} :
    r.redact text = text ↔ r.redactChars text.toList = text.toList := by
  rw [← String.toList_inj, toList_redact]

theorem leaves_redact (r : Redactor) (text : String) : r.Leaves text := by
  have hagain : r.redact (r.redact text) = r.redact text ↔
      ∀ p ∈ r.patterns, Clear p.1 none (r.redact text).toList :=
    redact_eq_iff.trans redactChars_eq_self_iff
  have hargon2 (h : r.passwordHashes) : Clear argon2 none (r.redact text).toList := by
    rw [toList_redact]
    exact argon2_left h
  refine ⟨fun h _ _ _ => masked_of_masksBcrypt h, hargon2, fun h _ _ heq => r.token_left h heq,
    fun h _ _ _ heq => r.bcrypt_left h heq, hagain, fun hnone => ?_⟩
  rw [hagain, clear_patterns_iff]
  refine ⟨fun h front rest heq => ?_, fun h => ⟨hargon2 h, fun front rest heq => ?_⟩⟩
  · rw [behind_none]
    refine Decidable.byContradiction fun hfound => ?_
    obtain ⟨hhashes, before, hash, -, -, hmasks, -⟩ := r.token_left h heq hfound
    exact hnone hhashes before hash rest hmasks
  · rw [behind_none]
    cases hfound : SecretPattern.bcrypt front.getLast? rest with
    | none => rfl
    | some secret =>
      obtain ⟨kept, -, hash, more, -, -, -, -, hmasks⟩ := r.bcrypt_left h heq hfound
      exact (hnone h (front ++ kept) hash more hmasks).elim

/-- A bcrypt hash that ends with a letter, and a token directly behind it. -/
def crowded : String := "$2a$10$....................................................aeyJh.e.s"

theorem redact_crowded :
    let r : Redactor := { correlation := false }
    r.redact crowded = "HASH[REDACTED]eyJh.e.s" ∧
      token (some ']') "eyJh.e.s".toList = some "eyJh.e.s".toList ∧
      r.redact (r.redact crowded) ≠ r.redact crowded := by
  intro r
  have htokens : r.afterTokens crowded.toList = crowded.toList :=
    replaceFrom_of_clear (by decide +kernel)
  have hargon2 : replace argon2 (r.mask "HASH") crowded.toList = crowded.toList :=
    replaceFrom_of_clear (by decide +kernel)
  have hbcrypt : replace bcrypt (r.mask "HASH") crowded.toList =
      "HASH[REDACTED]eyJh.e.s".toList := by
    have hfound : bcrypt none ('$' :: crowded.toList.tail) =
        some ('$' :: "2a$10$....................................................a".toList) := by
      decide +kernel
    have hrest : replaceFrom bcrypt (r.mask "HASH") (some 'a') "eyJh.e.s".toList =
        "eyJh.e.s".toList := replaceFrom_of_clear (by decide +kernel)
    calc replace bcrypt (r.mask "HASH") crowded.toList
      _ = "HASH[REDACTED]".toList ++
          replaceFrom bcrypt (r.mask "HASH") (some 'a') "eyJh.e.s".toList :=
        replaceFrom_of_found hfound
      _ = "HASH[REDACTED]eyJh.e.s".toList := by rw [hrest]; rfl
  have hfirst : r.redact crowded = "HASH[REDACTED]eyJh.e.s" := by
    rw [redact, redactChars_of_passwordHashes rfl, afterArgon2, htokens, hargon2, hbcrypt,
      String.ofList_toList]
  have htoken : token (some ']') "eyJh.e.s".toList = some "eyJh.e.s".toList := by decide +kernel
  refine ⟨hfirst, htoken, ?_⟩
  rw [hfirst, Ne, redact_eq_iff, redactChars_eq_self_iff, clear_patterns_iff]
  rintro ⟨hclear, -⟩
  have hnone := hclear rfl "HASH[REDACTED]".toList "eyJh.e.s".toList rfl
  rw [show behind none "HASH[REDACTED]".toList = some ']' from rfl, htoken] at hnone
  cases hnone

end Redactor

end IdentityProvider
