import IdentityProvider.Proofs.Base64
import IdentityProvider.Proofs.Log.Patterns
import IdentityProvider.Proofs.Log.Places

/-!
# The shapes of secrets

What each pattern finds, exactly (`token_eq_some_iff`, `argon2_eq_some_iff`,
`bcrypt_eq_some_iff`): a fixed part that ends with a mark, and what follows it. Tokens and
Argon2 hashes go on as far as they can, so neither is directly followed by a character that
could be part of it; bcrypt hashes have a fixed length.
-/

namespace IdentityProvider.SecretPattern

variable {before : Option Char} {c : Char} {cs ns rest secret : List Char}

-- ----- Runs and starts

section

variable {p : Char → Bool} {xs ys : List Char}

theorem takeWhile_append_of_all (hxs : ∀ x ∈ xs, p x) (hys : ∀ y ∈ ys.head?, p y = false) :
    (xs ++ ys).takeWhile p = xs := by
  rw [List.takeWhile_append_of_pos hxs]
  cases ys with
  | nil => simp
  | cons y ys => simp [hys y rfl]

theorem dropWhile_append_of_all (hxs : ∀ x ∈ xs, p x) (hys : ∀ y ∈ ys.head?, p y = false) :
    (xs ++ ys).dropWhile p = ys := by
  rw [List.dropWhile_append_of_pos hxs]
  cases ys with
  | nil => rfl
  | cons y ys => simp [hys y rfl]

theorem of_mem_head?_dropWhile {y : Char} (h : y ∈ (ys.dropWhile p).head?) : p y = false := by
  induction ys with
  | nil => cases h
  | cons z ys ih =>
    cases hz : p z with
    | true => exact ih (by simpa [hz] using h)
    | false =>
      simp only [List.dropWhile_cons, hz, Bool.false_eq_true, if_false, List.head?_cons] at h
      cases h
      exact hz

theorem of_mem_takeWhile {y : Char} (h : y ∈ ys.takeWhile p) : p y := by
  have hall := List.all_takeWhile (p := p) (l := ys)
  exact List.all_eq_true.mp hall y h

/-- Of several starts that do not begin with each other, at most one is there. -/
theorem findSome?_after?_eq_some_iff {starts : List (List Char)}
    {f : List Char → List Char → Option (List Char)}
    (hstarts : ∀ s ∈ starts, ∀ s' ∈ starts, s <+: s' → s = s') :
    (starts.findSome? fun start => (after? start cs).bind (f start)) = some secret ↔
      ∃ start ∈ starts, ∃ rest, cs = start ++ rest ∧ f start rest = some secret := by
  have hsome {s found} (h : (after? s cs).bind (f s) = some found) :
      ∃ rest, cs = s ++ rest ∧ f s rest = some found := by
    obtain ⟨rest, hrest, hfound⟩ := Option.bind_eq_some_iff.mp h
    exact ⟨rest, after?_eq_some_iff.mp hrest, hfound⟩
  constructor
  · intro h
    obtain ⟨start, hstart, h⟩ := List.exists_of_findSome?_eq_some h
    exact ⟨start, hstart, hsome h⟩
  · rintro ⟨start, hstart, rest, hcs, hfound⟩
    have hhere : (after? start cs).bind (f start) = some secret := by
      rw [after?_eq_some_iff.mpr hcs, Option.bind_some, hfound]
    rcases hfind : starts.findSome? fun start => (after? start cs).bind (f start) with _ | found
    · rw [List.findSome?_eq_none_iff] at hfind
      rw [hfind start hstart] at hhere
      cases hhere
    · obtain ⟨start', hstart', h⟩ := List.exists_of_findSome?_eq_some hfind
      obtain ⟨rest', hcs', -⟩ := hsome h
      have heq : start = start' := by
        have hbegins : start <+: cs := ⟨rest, hcs.symm⟩
        have hbegins' : start' <+: cs := ⟨rest', hcs'.symm⟩
        rcases List.prefix_or_prefix_of_prefix hbegins hbegins' with hs | hs
        · exact hstarts _ hstart _ hstart' hs
        · exact (hstarts _ hstart' _ hstart hs).symm
      rw [heq, h] at hhere
      exact hhere

end

-- ----- Tokens

theorem isTokenChar_of_mem_encode {bs : Bytes} {b : UInt8} (h : b ∈ Base64.encode .url bs) :
    isTokenChar (Char.ofNat b.toNat) := by
  have hall : ∀ b ∈ Base64.Alphabet.url.symbols, isTokenChar (Char.ofNat b.toNat) := by
    decide +kernel
  exact hall b (Base64.mem_symbols_of_mem_encode h)

/-- A token up to its last dot. -/
def IsTokenStart (ns : List Char) : Prop :=
  ∃ header claims, (∀ c ∈ header, isTokenChar c) ∧ (∀ c ∈ claims, isTokenChar c) ∧ claims ≠ [] ∧
    ns = ['e', 'y', 'J'] ++ (header ++ '.' :: (claims ++ ['.']))

theorem token_eq_some_iff : token before cs = some secret ↔
    before.any Text.isWordChar = false ∧ ∃ ns signature rest, IsTokenStart ns ∧
      (∀ c ∈ signature, isTokenChar c) ∧ (∀ c ∈ rest.head?, isTokenChar c = false) ∧
      secret = ns ++ signature ∧ cs = secret ++ rest := by
  have hdot : isTokenChar '.' = false := rfl
  constructor
  · intro h
    unfold token at h
    split at h
    · cases h
    rename_i hbefore
    refine ⟨by simpa using hbefore, ?_⟩
    simp only [Option.bind_eq_bind, Option.bind_eq_some_iff, after?_eq_some_iff] at h
    obtain ⟨rest, rfl, rest', hheader, rest'', hclaims, h⟩ := h
    split at h
    · cases h
    rename_i hne
    cases h
    have hrest := takeWhile_append_of_dropWhile hheader
    have hrest' := takeWhile_append_of_dropWhile hclaims
    rw [List.singleton_append] at hrest hrest'
    refine ⟨['e', 'y', 'J'] ++ (rest.takeWhile isTokenChar ++ '.' :: (rest'.takeWhile isTokenChar ++
      ['.'])), rest''.takeWhile isTokenChar, rest''.dropWhile isTokenChar, ⟨_, _,
      fun _ => of_mem_takeWhile, fun _ => of_mem_takeWhile, hne, rfl⟩, fun _ => of_mem_takeWhile,
      fun _ => of_mem_head?_dropWhile, by simp, ?_⟩
    simp only [List.append_assoc, List.cons_append, List.takeWhile_append_dropWhile, hrest', hrest]
  · rintro ⟨hbefore, ns, signature, rest, ⟨header, claims, hheader, hclaims, hne, rfl⟩, hsignature,
      hrest, rfl, rfl⟩
    simp only [token, hbefore, after?, List.append_assoc, List.cons_append, List.nil_append,
      Bool.false_eq_true, if_false, if_true, Option.bind_eq_bind, Option.bind_some]
    have hdots : ∀ y ∈ ('.' :: (claims ++ '.' :: (signature ++ rest))).head?,
        isTokenChar y = false := by
      simpa using hdot
    have hdot' : ∀ y ∈ ('.' :: (signature ++ rest)).head?, isTokenChar y = false := by
      simpa using hdot
    rw [dropWhile_append_of_all hheader hdots, takeWhile_append_of_all hheader hdots]
    simp only [after?, if_true, Option.bind_some]
    rw [dropWhile_append_of_all hclaims hdot', takeWhile_append_of_all hclaims hdot']
    simp only [after?, if_true, Option.bind_some]
    rw [takeWhile_append_of_all hsignature hrest, if_neg hne]

theorem token_ne_none_iff : token before cs ≠ none ↔
    before.any Text.isWordChar = false ∧ ∃ ns, IsTokenStart ns ∧ ns <+: cs := by
  constructor
  · intro h
    obtain ⟨secret, hsecret⟩ := Option.ne_none_iff_exists'.mp h
    obtain ⟨hbefore, ns, signature, rest, hns, -, -, rfl, rfl⟩ := token_eq_some_iff.mp hsecret
    exact ⟨hbefore, ns, hns, by rw [List.append_assoc]; exact List.prefix_append _ _⟩
  · rintro ⟨hbefore, ns, hns, rest, rfl⟩
    refine Option.ne_none_iff_exists'.mpr ⟨_, token_eq_some_iff.mpr ⟨hbefore, ns,
      rest.takeWhile isTokenChar, rest.dropWhile isTokenChar, hns, fun _ => of_mem_takeWhile,
      fun _ => of_mem_head?_dropWhile, rfl, ?_⟩⟩
    rw [List.append_assoc, List.takeWhile_append_dropWhile]

/-- A token goes on as far as it can. -/
theorem token_ends (h : token before (secret ++ rest) = some secret) :
    ∀ c ∈ rest.head?, isTokenChar c = false := by
  obtain ⟨-, ns, signature, rest', -, -, hrest, -, heq⟩ := token_eq_some_iff.mp h
  rwa [List.append_cancel_left heq]

theorem IsTokenStart.head?_append (h : IsTokenStart ns) (cs : List Char) :
    (ns ++ cs).head? = some 'e' := by
  obtain ⟨header, claims, -, -, -, rfl⟩ := h
  rfl

theorem IsTokenStart.isNeedle (h : IsTokenStart ns) : IsNeedle ns := by
  obtain ⟨header, claims, hheader, hclaims, -, rfl⟩ := h
  have hopening : isTokenChar '[' = false := rfl
  have hclosing : isTokenChar ']' = false := rfl
  have hnot {c : Char} {cs : List Char} (hc : isTokenChar c = false)
      (hcs : ∀ c ∈ cs, isTokenChar c) : c ∉ cs := by
    intro hmem
    rw [hcs c hmem] at hc
    cases hc
  refine ⟨.inl (by simp [List.getLast?_append, List.getLast?_cons]), ?_, ?_⟩
  · simp [hnot hopening hheader, hnot hopening hclaims]
  · simp [hnot hclosing hheader, hnot hclosing hclaims]

-- ----- Argon2 hashes

theorem argon2_eq_some_iff : argon2 before cs = some secret ↔
    ∃ start ∈ argon2Starts, ∃ body rest, body ≠ [] ∧ (∀ c ∈ body, isArgon2Char c) ∧
      (∀ c ∈ rest.head?, isArgon2Char c = false) ∧ secret = start ++ body ∧
      cs = secret ++ rest := by
  have hstarts : ∀ s ∈ argon2Starts, ∀ s' ∈ argon2Starts, s <+: s' → s = s' := by decide
  unfold argon2
  rw [findSome?_after?_eq_some_iff hstarts]
  refine exists_congr fun start => and_congr_right fun hstart => ?_
  constructor
  · rintro ⟨rest, rfl, h⟩
    dsimp only at h
    split at h
    · cases h
    · rename_i hne
      cases h
      refine ⟨rest.takeWhile isArgon2Char, rest.dropWhile isArgon2Char, hne,
        fun _ => of_mem_takeWhile, fun _ => of_mem_head?_dropWhile, rfl, ?_⟩
      rw [List.append_assoc, List.takeWhile_append_dropWhile]
  · rintro ⟨body, rest, hne, hbody, hrest, rfl, rfl⟩
    refine ⟨body ++ rest, List.append_assoc .., ?_⟩
    simp only [takeWhile_append_of_all hbody hrest, hne, if_false]

theorem argon2_ne_none_iff : argon2 before cs ≠ none ↔
    ∃ start ∈ argon2Starts, ∃ c, isArgon2Char c ∧ start ++ [c] <+: cs := by
  constructor
  · intro h
    obtain ⟨secret, hsecret⟩ := Option.ne_none_iff_exists'.mp h
    obtain ⟨start, hstart, body, rest, hne, hbody, -, rfl, rfl⟩ := argon2_eq_some_iff.mp hsecret
    obtain ⟨c, body, rfl⟩ := List.exists_cons_of_ne_nil hne
    exact ⟨start, hstart, c, hbody c List.mem_cons_self, body ++ rest, by simp⟩
  · rintro ⟨start, hstart, c, hc, rest, rfl⟩
    refine Option.ne_none_iff_exists'.mpr ⟨_, argon2_eq_some_iff.mpr ⟨start, hstart,
      (c :: rest).takeWhile isArgon2Char, (c :: rest).dropWhile isArgon2Char, by simp [hc],
      fun _ => of_mem_takeWhile, fun _ => of_mem_head?_dropWhile, rfl, ?_⟩⟩
    simp only [List.append_assoc, List.takeWhile_append_dropWhile, List.singleton_append]

/-- An Argon2 hash goes on as far as it can. -/
theorem argon2_ends (h : argon2 before (secret ++ rest) = some secret) :
    ∀ c ∈ rest.head?, isArgon2Char c = false := by
  obtain ⟨start, -, body, rest', -, -, hrest, -, heq⟩ := argon2_eq_some_iff.mp h
  rwa [List.append_cancel_left heq]

theorem isNeedle_of_mem_argon2Starts (h : ns ∈ argon2Starts) : IsNeedle ns := by
  have hall : ∀ s ∈ argon2Starts, s.getLast? = some '$' ∧ '[' ∉ s ∧ ']' ∉ s := by decide
  obtain ⟨hmark, hopening, hclosing⟩ := hall ns h
  exact ⟨.inr hmark, hopening, hclosing⟩

-- ----- bcrypt hashes

/-- A bcrypt hash up to its last dollar sign. -/
def IsBcryptStart (ns : List Char) : Prop :=
  ∃ version ∈ bcryptVersions, ∃ a b, Text.isDecimalDigit a ∧ Text.isDecimalDigit b ∧
    ns = version ++ [a, b, '$']

def IsBcryptBody (body : List Char) : Prop :=
  body.length = bcryptBodyLength ∧ ∀ c ∈ body, isBcryptChar c

theorem bcryptRest_eq_some_iff : bcryptRest cs = some secret ↔
    ∃ a b body, Text.isDecimalDigit a ∧ Text.isDecimalDigit b ∧ IsBcryptBody body ∧
      secret = a :: b :: '$' :: body ∧ secret <+: cs := by
  constructor
  · intro h
    have hbegins := prefix_of_bcryptRest h
    unfold bcryptRest at h
    split at h
    · rename_i a b rest
      dsimp only at h
      split at h
      · rename_i hdigits
        cases h
        exact ⟨a, b, _, hdigits.1, hdigits.2.1, ⟨hdigits.2.2, fun _ => of_mem_takeWhile⟩, rfl,
          hbegins⟩
      · cases h
    · cases h
  · rintro ⟨a, b, body, ha, hb, ⟨hlength, hbody⟩, rfl, rest, rfl⟩
    have htake : (body ++ rest).take bcryptBodyLength = body := List.take_left' hlength
    have hnone : ∀ c ∈ ([] : List Char).head?, isBcryptChar c = false := by simp
    have hall : body.takeWhile isBcryptChar = body := by
      simpa using takeWhile_append_of_all hbody hnone
    simp [bcryptRest, ha, hb, htake, hall, hlength]

theorem bcrypt_eq_some_iff : bcrypt before cs = some secret ↔
    ∃ ns body, IsBcryptStart ns ∧ IsBcryptBody body ∧ secret = ns ++ body ∧ secret <+: cs := by
  have hversions : ∀ s ∈ bcryptVersions, ∀ s' ∈ bcryptVersions, s <+: s' → s = s' := by decide
  unfold bcrypt
  rw [findSome?_after?_eq_some_iff hversions]
  constructor
  · rintro ⟨version, hversion, rest, rfl, h⟩
    obtain ⟨found, hfound, rfl⟩ := Option.map_eq_some_iff.mp h
    obtain ⟨a, b, body, ha, hb, hbody, rfl, hbegins⟩ := bcryptRest_eq_some_iff.mp hfound
    refine ⟨version ++ [a, b, '$'], body, ⟨version, hversion, a, b, ha, hb, rfl⟩, hbody,
      by simp, ?_⟩
    rwa [List.prefix_append_right_inj]
  · rintro ⟨ns, body, ⟨version, hversion, a, b, ha, hb, rfl⟩, hbody, rfl, rest, rfl⟩
    refine ⟨version, hversion, a :: b :: '$' :: body ++ rest, by simp, ?_⟩
    rw [bcryptRest_eq_some_iff.mpr ⟨a, b, body, ha, hb, hbody, rfl, List.prefix_append _ _⟩]
    simp

theorem IsBcryptStart.isNeedle (h : IsBcryptStart ns) : IsNeedle ns := by
  obtain ⟨version, hversion, a, b, ha, hb, rfl⟩ := h
  have hall : ∀ s ∈ bcryptVersions, '[' ∉ s ∧ ']' ∉ s := by decide
  obtain ⟨hopening, hclosing⟩ := hall version hversion
  have hdigit {c d : Char} (hd : Text.isDecimalDigit d) (hc : Text.isDecimalDigit c = false) :
      c ≠ d := by
    rintro rfl
    rw [hd] at hc
    cases hc
  have hopening' : Text.isDecimalDigit '[' = false := by decide
  have hclosing' : Text.isDecimalDigit ']' = false := by decide
  refine ⟨.inr (by simp [List.getLast?_append, List.getLast?_cons]), ?_, ?_⟩
  · simp [hopening, hdigit ha hopening', hdigit hb hopening']
  · simp [hclosing, hdigit ha hclosing', hdigit hb hclosing']

-- ----- Marks

theorem countP_pos_of_needle (hns : IsNeedle ns) (h : ns <+: cs) : 0 < cs.countP isMark := by
  rw [List.countP_pos_iff]
  rcases hns.mark with hmark | hmark
  · exact ⟨'.', h.subset (List.mem_of_getLast? hmark), rfl⟩
  · exact ⟨'$', h.subset (List.mem_of_getLast? hmark), rfl⟩

theorem marked_token : Marked token := by
  intro before cs secret h
  obtain ⟨-, ns, signature, rest, hns, -, -, rfl, rfl⟩ := token_eq_some_iff.mp h
  exact ⟨List.prefix_append _ _, countP_pos_of_needle hns.isNeedle (List.prefix_append _ _)⟩

theorem marked_argon2 : Marked argon2 := by
  intro before cs secret h
  obtain ⟨start, hstart, body, rest, -, -, -, rfl, rfl⟩ := argon2_eq_some_iff.mp h
  have hneedle := isNeedle_of_mem_argon2Starts hstart
  exact ⟨List.prefix_append _ _, countP_pos_of_needle hneedle (List.prefix_append _ _)⟩

theorem marked_bcrypt : Marked bcrypt := by
  intro before cs secret h
  obtain ⟨ns, body, hns, -, rfl, hbegins⟩ := bcrypt_eq_some_iff.mp h
  exact ⟨hbegins, countP_pos_of_needle hns.isNeedle (List.prefix_append _ _)⟩

end IdentityProvider.SecretPattern

namespace IdentityProvider.Redactor

open SecretPattern

theorem isMask_mask (r : Redactor) {label : String} (h : label = "JWT" ∨ label = "HASH")
    (secret : List Char) : IsMask (r.mask label secret) := by
  have hinner (c : Char) (hsymbols : ∀ b ∈ Base64.Alphabet.url.symbols, Char.ofNat b.toNat ≠ c)
      (hplain : c ∉ "REDACTED".toList) : c ∉ (if r.correlation then
        fingerprint (Bytes.ofString (String.ofList secret)) else "REDACTED").toList := by
    split
    · exact Base64.not_mem_ascii_encode hsymbols _
    · exact hplain
  have hlabel : '.' ∉ label.toList ∧ '$' ∉ label.toList := by
    rcases h with rfl | rfl <;> decide
  have hdot := hinner '.' (by decide +kernel) (by decide)
  have hdollar := hinner '$' (by decide +kernel) (by decide)
  unfold mask
  exact {
    opening := by simp
    closing := by simp [List.getLast?_cons]
    dot := by simp [hlabel.1, hdot]
    dollar := by simp [hlabel.2, hdollar] }

end IdentityProvider.Redactor
