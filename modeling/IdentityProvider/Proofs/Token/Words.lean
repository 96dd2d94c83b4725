import IdentityProvider.Proofs.Token.Spacing

/-!
# Which scopes a token has

`scopes_of_text`: texts that are joined to a token's scopes have the words between
their blanks for scopes (`Text.pieces`), in their order, and no word runs from one
text into the next. A token has a scope exactly if it stands in the token's text
with blanks or the text's ends around it (`Text.StandsIn`).
-/

namespace IdentityProvider

namespace Text

variable {w xs ys cs : List Char} {b : Char}

-- ----- Texts between blanks

/-- A text has no blanks, or falls into two at one of them. -/
theorem induction_on_blanks {motive : List Char → Prop}
    (unbroken : ∀ cs, (∀ c ∈ cs, isBlank c = false) → motive cs)
    (broken : ∀ xs b ys, isBlank b = true → motive xs → motive ys → motive (xs ++ b :: ys))
    (cs : List Char) : motive cs := by
  -- The characters in front of `cs` are the ones since the last blank.
  suffices h : ∀ xs, (∀ c ∈ xs, isBlank c = false) → motive (xs ++ cs) from h [] (by simp)
  induction cs with
  | nil =>
    intro xs hxs
    rw [List.append_nil]
    exact unbroken xs hxs
  | cons c cs ih =>
    intro xs hxs
    by_cases hc : isBlank c = true
    · exact broken xs c cs hc (unbroken xs hxs) (ih [] (by simp))
    · have hlonger : ∀ d ∈ xs ++ [c], isBlank d = false := by
        simpa [or_imp, forall_and] using ⟨hxs, Bool.eq_false_iff.mpr hc⟩
      simpa using ih (xs ++ [c]) hlonger

/-- Cutting a text at each of its blanks leaves its words and some empty pieces. -/
theorem words_eq_filter_splitOnP (cs : List Char) :
    words cs = (cs.splitOnP isBlank).filter (· ≠ []) := by
  induction cs using induction_on_blanks with
  | unbroken cs h =>
    rw [List.splitOnP_eq_singleton h]
    by_cases hne : cs = []
    · subst hne
      rfl
    · simp [words_of_isWord ⟨hne, h⟩, hne]
  | broken xs b ys hb ihx ihy =>
    rw [words_append_blank xs ys hb, List.splitOnP_append_cons xs ys hb, List.filter_append, ihx,
      ihy]

-- ----- Words that stand in a text

/-- A word stands in a text where blanks or the text's ends are around it. -/
def StandsIn (w cs : List Char) : Prop :=
  IsWord w ∧ ∃ before after, cs = before ++ (w ++ after) ∧
    ¬ EndsInWord before ∧ ¬ BeginsInWord after

theorem eq_nil_of_not_beginsInWord (h : ∀ c ∈ cs, isBlank c = false) (hcs : ¬ BeginsInWord cs) :
    cs = [] := by
  cases cs with
  | nil => rfl
  | cons c rest => exact absurd ⟨c, rest, rfl, h c List.mem_cons_self⟩ hcs

theorem eq_nil_of_not_endsInWord (h : ∀ c ∈ cs, isBlank c = false) (hcs : ¬ EndsInWord cs) :
    cs = [] := by
  rcases List.eq_nil_or_concat cs with rfl | ⟨rest, c, rfl⟩
  · rfl
  · exact absurd ⟨rest, c, List.concat_eq_append, h c (by simp)⟩ hcs

/-- In a text without blanks only the whole of it stands. -/
theorem standsIn_iff_of_not_blank (h : ∀ c ∈ cs, isBlank c = false) :
    StandsIn w cs ↔ IsWord cs ∧ w = cs := by
  constructor
  · rintro ⟨hw, before, after, rfl, hbefore, hafter⟩
    obtain rfl := eq_nil_of_not_endsInWord (fun c hc => h c (by simp [hc])) hbefore
    obtain rfl := eq_nil_of_not_beginsInWord (fun c hc => h c (by simp [hc])) hafter
    simpa using hw
  · rintro ⟨hw, rfl⟩
    exact ⟨hw, [], [], by simp, not_endsInWord_nil, not_beginsInWord_nil⟩

/-- A word does not reach across a blank. -/
theorem standsIn_append_blank_iff (hb : isBlank b = true) :
    StandsIn w (xs ++ b :: ys) ↔ StandsIn w xs ∨ StandsIn w ys := by
  constructor
  · rintro ⟨hw, before, after, hcs, hbefore, hafter⟩
    have hfree : b ∉ w := fun hmem => by cases hb.symm.trans (hw.2 b hmem)
    rcases List.append_eq_append_iff.mp hcs with ⟨rest, rfl, hrest⟩ | ⟨rest, rfl, hrest⟩
    · -- The blank is in front of the word.
      cases rest with
      | nil =>
        obtain ⟨first, others, rfl⟩ := List.exists_cons_of_ne_nil hw.1
        obtain ⟨rfl, -⟩ := List.cons.inj hrest
        exact absurd List.mem_cons_self hfree
      | cons r rest =>
        obtain ⟨rfl, rfl⟩ := List.cons.inj hrest
        exact .inr ⟨hw, rest, after, rfl, fun h => hbefore ((h.append [b]).append xs), hafter⟩
    · -- The blank is in the word, which it cannot be, or behind it.
      rcases List.append_eq_append_iff.mp hrest with ⟨more, rfl, rfl⟩ | ⟨more, rfl, hmore⟩
      · exact .inl ⟨hw, before, more, rfl, hbefore, fun h => hafter (h.append (b :: ys))⟩
      · cases more with
        | nil =>
          rw [List.append_nil] at hw
          exact .inl ⟨by simpa using hw, before, [], by simp, hbefore, not_beginsInWord_nil⟩
        | cons m more =>
          obtain ⟨rfl, -⟩ := List.cons.inj hmore
          exact absurd (by simp) hfree
  · rintro (⟨hw, before, after, rfl, hbefore, hafter⟩ | ⟨hw, before, after, rfl, hbefore, hafter⟩)
    · exact ⟨hw, before, after ++ b :: ys, by simp, hbefore,
        fun h => hafter (h.of_append_blank hb)⟩
    · exact ⟨hw, xs ++ b :: before, after, by simp, fun h => hbefore (h.of_append_blank hb),
        hafter⟩

theorem mem_words_iff : w ∈ words cs ↔ StandsIn w cs := by
  induction cs using induction_on_blanks with
  | unbroken cs h =>
    rw [standsIn_iff_of_not_blank h]
    by_cases hne : cs = []
    · subst hne
      simp [words, words.go, IsWord]
    · have hword : IsWord cs := ⟨hne, h⟩
      simp [words_of_isWord hword, hword]
  | broken xs b ys hb ihx ihy =>
    rw [words_append_blank xs ys hb, List.mem_append, ihx, ihy, standsIn_append_blank_iff hb]

/-- The words of a text, as it is cut at its blanks. -/
def pieces (s : String) : List String :=
  ((s.toList.splitOnP isBlank).filter (· ≠ [])).map String.ofList

end Text

-- ----- Scopes

theorem scopeList_eq_pieces (scopes : String) : scopeList scopes = Text.pieces scopes := by
  rw [scopeList, Text.words_eq_filter_splitOnP, Text.pieces]

theorem mem_scopeList_iff {scopes scope : String} :
    scope ∈ scopeList scopes ↔ Text.StandsIn scope.toList scopes.toList := by
  rw [scopeList, List.mem_map, ← Text.mem_words_iff]
  constructor
  · rintro ⟨w, hw, rfl⟩
    rwa [String.toList_ofList]
  · intro h
    exact ⟨_, h, String.ofList_toList⟩

/-- Joined scopes are cut into the words of each of them. What a token has is what is
on its list, which is every word that stands in its text. -/
theorem Claims.scopes_of_text (c : Claims) :
    (∀ scopes : List String, ({ c with scopes := joinScopes scopes } : Claims).scopeList =
      scopes.flatMap Text.pieces) ∧
    ∀ scope, (c.hasScope scope = true ↔ scope ∈ c.scopeList) ∧
      (scope ∈ c.scopeList ↔ Text.StandsIn scope.toList c.scopes.toList) := by
  refine ⟨fun scopes => ?_, fun scope => ⟨hasScope_iff _ _, mem_scopeList_iff⟩⟩
  have hpieces : IdentityProvider.scopeList = Text.pieces := funext scopeList_eq_pieces
  rw [Claims.scopeList, scopeList_joinScopes, hpieces]

end IdentityProvider
