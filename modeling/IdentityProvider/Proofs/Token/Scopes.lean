import IdentityProvider.Token.Claims

/-!
# Scopes are joined and split again

`scopeList_joinScopes`: a text of joined scopes has the words of each of them, in
their order. Scopes that came out of a text are single words, so joining them
neither adds one nor loses one.
-/

namespace IdentityProvider

namespace Text

-- ----- Words

def IsWord (w : List Char) : Prop := w ≠ [] ∧ ∀ c ∈ w, isBlank c = false

theorem go_append_blank (xs ys : List Char) (hb : isBlank b = true) (word : List Char) :
    words.go (xs ++ b :: ys) word = words.go xs word ++ words.go ys [] := by
  induction xs generalizing word with
  | nil => simp [words.go, hb]
  | cons c xs ih =>
    simp only [List.cons_append, words.go]
    split
    · rw [ih, List.append_assoc]
    · exact ih _

theorem words_append_blank (xs ys : List Char) (hb : isBlank b = true) :
    words (xs ++ b :: ys) = words xs ++ words ys :=
  go_append_blank xs ys hb []

theorem go_of_not_blank {w : List Char} (hw : ∀ c ∈ w, isBlank c = false) (word : List Char) :
    words.go w word = words.go [] (w.reverse ++ word) := by
  induction w generalizing word with
  | nil => rfl
  | cons c w ih =>
    have hc := hw c List.mem_cons_self
    have hrest := ih (fun d hd => hw d (List.mem_cons_of_mem _ hd)) (c :: word)
    simp [words.go, hc, hrest]

theorem words_of_isWord (hw : IsWord w) : words w = [w] := by
  rw [words, go_of_not_blank hw.2]
  simp [words.go, hw.1]

theorem isWord_of_mem_go_nil {word : List Char} (hword : ∀ c ∈ word, isBlank c = false)
    (hw : w ∈ words.go [] word) : IsWord w := by
  rw [words.go] at hw
  split at hw
  · cases hw
  · rename_i hne
    rw [List.mem_singleton] at hw
    subst hw
    exact ⟨by simpa using hne, fun c hc => hword c (List.mem_reverse.mp hc)⟩

/-- The word so far has no blanks either. -/
theorem isWord_of_mem_go {cs word : List Char} (hword : ∀ c ∈ word, isBlank c = false)
    (hw : w ∈ words.go cs word) : IsWord w := by
  induction cs generalizing word with
  | nil => exact isWord_of_mem_go_nil hword hw
  | cons c cs ih =>
    rw [words.go] at hw
    split at hw
    · rcases List.mem_append.mp hw with hw | hw
      · exact isWord_of_mem_go_nil hword hw
      · exact ih (by simp) hw
    · rename_i hc
      refine ih (fun d hd => ?_) hw
      rcases List.mem_cons.mp hd with rfl | hd
      · simpa using hc
      · exact hword d hd

theorem isWord_of_mem_words (hw : w ∈ words cs) : IsWord w :=
  isWord_of_mem_go (by simp) hw

end Text

-- ----- Scopes

theorem toList_append_space (s t : String) :
    (s ++ " " ++ t).toList = s.toList ++ ' ' :: t.toList := by
  simp

theorem scopeList_append_space (s t : String) :
    scopeList (s ++ " " ++ t) = scopeList s ++ scopeList t := by
  rw [scopeList, toList_append_space, Text.words_append_blank _ _ (by decide), List.map_append]
  rfl

theorem scopeList_spaceSeparated (scopes : List String) :
    scopeList (spaceSeparated scopes) = scopes.flatMap scopeList := by
  induction scopes with
  | nil => rfl
  | cons s scopes ih =>
    cases scopes with
    | nil => simp [spaceSeparated]
    | cons t scopes =>
      rw [spaceSeparated, scopeList_append_space, ih]
      · rfl
      · simp

theorem scopeList_joinScopes (scopes : List String) :
    scopeList (joinScopes scopes) = scopes.flatMap scopeList := by
  rw [joinScopes, scopeList_spaceSeparated]
  induction scopes with
  | nil => rfl
  | cons s scopes ih =>
    by_cases h : s = ""
    · subst h
      rw [List.filter_cons_of_neg (by simp), ih]
      rfl
    · rw [List.filter_cons_of_pos (by simpa using h), List.flatMap_cons, List.flatMap_cons, ih]

/-- A single word that is joined with other scopes stays one of them. -/
theorem hasScope_joinScopes {scopes : List String} (h : scope ∈ scopes)
    (hword : scopeList scope = [scope]) : hasScope (joinScopes scopes) scope = true := by
  rw [hasScope_iff, scopeList_joinScopes, List.mem_flatMap]
  exact ⟨scope, h, by simp [hword]⟩

theorem scopeList_of_mem (hs : s ∈ scopeList scopes) : scopeList s = [s] := by
  obtain ⟨w, hw, rfl⟩ := List.mem_map.mp hs
  rw [scopeList, String.toList_ofList, Text.words_of_isWord (Text.isWord_of_mem_words hw)]
  rfl

theorem flatMap_scopeList {scopes : List String} (h : ∀ s ∈ scopes, scopeList s = [s]) :
    scopes.flatMap scopeList = scopes := by
  induction scopes with
  | nil => rfl
  | cons s scopes ih =>
    rw [List.flatMap_cons, h s List.mem_cons_self,
      ih fun t ht => h t (List.mem_cons_of_mem _ ht)]
    rfl

/-- Scopes that are taken over from a text stay what they are. -/
theorem scopeList_joinScopes_scopeList (scopes : String) :
    scopeList (joinScopes (scopeList scopes)) = scopeList scopes := by
  rw [scopeList_joinScopes]
  exact flatMap_scopeList fun s hs => scopeList_of_mem hs

end IdentityProvider
