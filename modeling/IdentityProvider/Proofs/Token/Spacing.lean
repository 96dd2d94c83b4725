import IdentityProvider.Proofs.Token.Scopes

/-!
# Which texts are kept when their words are joined again

`joinScopes_scopeList_eq_iff`: splitting a text into words and joining them again
gives the text back exactly when it is `SingleSpaced`. A text of joined scopes is so
when each of the scopes is (`singleSpaced_joinScopes_iff`).
-/

namespace IdentityProvider

namespace Text

/-- The first character is there and is no blank. -/
def BeginsInWord (cs : List Char) : Prop := ∃ c rest, cs = c :: rest ∧ isBlank c = false

/-- The last character is there and is no blank. -/
def EndsInWord (cs : List Char) : Prop := ∃ rest c, cs = rest ++ [c] ∧ isBlank c = false

/-- Every blank of the text is one space between two other characters. -/
def SingleSpaced (cs : List Char) : Prop :=
  ∀ before b after, cs = before ++ b :: after → isBlank b = true →
    b = ' ' ∧ EndsInWord before ∧ BeginsInWord after

theorem isBlank_space : isBlank ' ' = true := by decide

variable {xs ys cs : List Char} {b : Char}

-- ----- Ends

theorem not_beginsInWord_nil : ¬ BeginsInWord [] := by
  rintro ⟨c, rest, hnil, -⟩
  cases hnil

theorem not_endsInWord_nil : ¬ EndsInWord [] := by
  rintro ⟨rest, c, hnil, -⟩
  simp at hnil

theorem BeginsInWord.append (h : BeginsInWord xs) (ys : List Char) : BeginsInWord (xs ++ ys) := by
  obtain ⟨c, rest, rfl, hc⟩ := h
  exact ⟨c, rest ++ ys, rfl, hc⟩

theorem EndsInWord.append (h : EndsInWord ys) (xs : List Char) : EndsInWord (xs ++ ys) := by
  obtain ⟨rest, c, rfl, hc⟩ := h
  exact ⟨xs ++ rest, c, (List.append_assoc ..).symm, hc⟩

theorem BeginsInWord.of_append_blank (h : BeginsInWord (xs ++ b :: ys))
    (hb : isBlank b = true) : BeginsInWord xs := by
  obtain ⟨c, rest, heq, hc⟩ := h
  cases xs with
  | nil =>
    obtain ⟨rfl, -⟩ := List.cons.inj heq
    cases hb.symm.trans hc
  | cons x xs =>
    obtain ⟨rfl, -⟩ := List.cons.inj heq
    exact ⟨x, xs, rfl, hc⟩

theorem EndsInWord.of_append_blank (h : EndsInWord (xs ++ b :: ys)) (hb : isBlank b = true) :
    EndsInWord ys := by
  obtain ⟨rest, c, heq, hc⟩ := h
  rcases List.eq_nil_or_concat ys with rfl | ⟨ys, y, rfl⟩
  · obtain ⟨-, hlast⟩ := List.append_inj' heq rfl
    cases hlast
    cases hb.symm.trans hc
  · rw [List.concat_eq_append, ← List.cons_append, ← List.append_assoc] at heq
    obtain ⟨-, hlast⟩ := List.append_inj' heq rfl
    cases hlast
    exact ⟨ys, c, List.concat_eq_append, hc⟩

theorem SingleSpaced.beginsInWord (h : SingleSpaced cs) (hne : cs ≠ []) : BeginsInWord cs := by
  obtain ⟨first, rest, rfl⟩ := List.exists_cons_of_ne_nil hne
  refine ⟨first, rest, rfl, Bool.eq_false_iff.mpr fun hblank => ?_⟩
  exact not_endsInWord_nil (h [] first rest rfl hblank).2.1

theorem SingleSpaced.endsInWord (h : SingleSpaced cs) (hne : cs ≠ []) : EndsInWord cs := by
  obtain ⟨rest, last, rfl⟩ := (List.eq_nil_or_concat cs).resolve_left hne
  refine ⟨rest, last, List.concat_eq_append, Bool.eq_false_iff.mpr fun hblank => ?_⟩
  exact not_beginsInWord_nil (h rest last [] List.concat_eq_append hblank).2.2

-- ----- Two texts around a space

theorem singleSpaced_of_not_blank (h : ∀ c ∈ cs, isBlank c = false) : SingleSpaced cs := by
  rintro before b after rfl hb
  rw [h b (by simp)] at hb
  cases hb

theorem SingleSpaced.left (h : SingleSpaced (xs ++ ' ' :: ys)) : SingleSpaced xs := by
  rintro before b after rfl hb
  obtain ⟨hspace, hbefore, hafter⟩ := h before b (after ++ ' ' :: ys) (by simp) hb
  exact ⟨hspace, hbefore, hafter.of_append_blank isBlank_space⟩

theorem SingleSpaced.right (h : SingleSpaced (xs ++ ' ' :: ys)) : SingleSpaced ys := by
  rintro before b after rfl hb
  obtain ⟨hspace, hbefore, hafter⟩ := h (xs ++ ' ' :: before) b after (by simp) hb
  exact ⟨hspace, hbefore.of_append_blank isBlank_space, hafter⟩

theorem SingleSpaced.append_space (hx : SingleSpaced xs) (hy : SingleSpaced ys) (hxs : xs ≠ [])
    (hys : ys ≠ []) : SingleSpaced (xs ++ ' ' :: ys) := by
  intro before b after hcs hb
  rcases List.append_eq_append_iff.mp hcs with ⟨rest, rfl, hrest⟩ | ⟨rest, rfl, hrest⟩
  · cases rest with
    | nil =>
      obtain ⟨rfl, rfl⟩ := List.cons.inj hrest
      rw [List.append_nil]
      exact ⟨rfl, hx.endsInWord hxs, hy.beginsInWord hys⟩
    | cons d rest =>
      obtain ⟨rfl, rfl⟩ := List.cons.inj hrest
      obtain ⟨hspace, hbefore, hafter⟩ := hy rest b after rfl hb
      exact ⟨hspace, (hbefore.append [' ']).append xs, hafter⟩
  · cases rest with
    | nil =>
      obtain ⟨rfl, rfl⟩ := List.cons.inj hrest
      rw [List.append_nil] at hx hxs
      exact ⟨rfl, hx.endsInWord hxs, hy.beginsInWord hys⟩
    | cons d rest =>
      obtain ⟨rfl, rfl⟩ := List.cons.inj hrest
      obtain ⟨hspace, hbefore, hafter⟩ := hx before b rest rfl hb
      exact ⟨hspace, hbefore, hafter.append _⟩

theorem singleSpaced_append_space_iff (hxs : xs ≠ []) (hys : ys ≠ []) :
    SingleSpaced (xs ++ ' ' :: ys) ↔ SingleSpaced xs ∧ SingleSpaced ys :=
  ⟨fun h => ⟨h.left, h.right⟩, fun h => h.1.append_space h.2 hxs hys⟩

-- ----- Joining words

/-- Where a text is single-spaced, its words with spaces between them are the text.
The word so far is the text's beginning. -/
theorem intercalate_go {word : List Char} (h : SingleSpaced (word.reverse ++ cs)) :
    [' '].intercalate (words.go cs word) = word.reverse ++ cs := by
  induction cs generalizing word with
  | nil =>
    rw [words.go]
    split
    · rename_i hempty
      simp [List.isEmpty_iff.mp hempty]
    · simp
  | cons c cs ih =>
    rw [words.go]
    split
    · rename_i hc
      obtain ⟨rfl, ⟨init, last, hword, -⟩, first, rest, rfl, hfirst⟩ := h _ c cs rfl hc
      have hne : word ≠ [] := by
        rintro rfl
        simp at hword
      have hjoined : [' '].intercalate (words.go (first :: rest) []) = first :: rest := ih h.right
      have hwords : words.go (first :: rest) [] ≠ [] := by
        intro hnil
        simp [hnil] at hjoined
      obtain ⟨next, others, hothers⟩ := List.exists_cons_of_ne_nil hwords
      rw [if_neg (by simpa using hne), hothers, List.singleton_append,
        List.intercalate_cons_cons, ← hothers, hjoined]
      simp
    · have hlonger : SingleSpaced ((c :: word).reverse ++ cs) := by simpa using h
      simpa using ih hlonger

theorem intercalate_words (h : SingleSpaced cs) : [' '].intercalate (words cs) = cs :=
  intercalate_go h

end Text

open Text (SingleSpaced)

-- ----- Scopes

theorem toList_spaceSeparated (scopes : List String) :
    (spaceSeparated scopes).toList = [' '].intercalate (scopes.map String.toList) := by
  induction scopes with
  | nil => rfl
  | cons s scopes ih =>
    cases scopes with
    | nil => simp [spaceSeparated]
    | cons t scopes =>
      rw [spaceSeparated, List.map_cons, List.map_cons, List.intercalate_cons_cons, ← List.map_cons,
        ← ih]
      · simp
      · simp

theorem spaceSeparated_ne_empty {s : String} (h : s ≠ "") (scopes : List String) :
    spaceSeparated (s :: scopes) ≠ "" := by
  cases scopes with
  | nil => exact h
  | cons t scopes =>
    intro hempty
    have hlist := congrArg String.toList hempty
    rw [spaceSeparated, toList_append_space] at hlist
    · simp at hlist
    · simp

theorem singleSpaced_empty : SingleSpaced "".toList := Text.singleSpaced_of_not_blank (by simp)

theorem singleSpaced_spaceSeparated_iff {scopes : List String} (h : ∀ s ∈ scopes, s ≠ "") :
    SingleSpaced (spaceSeparated scopes).toList ↔ ∀ s ∈ scopes, SingleSpaced s.toList := by
  induction scopes with
  | nil => simpa [spaceSeparated] using singleSpaced_empty
  | cons s scopes ih =>
    obtain ⟨hs, hscopes⟩ := List.forall_mem_cons.mp h
    cases scopes with
    | nil => simp [spaceSeparated]
    | cons t scopes =>
      have hrest := spaceSeparated_ne_empty (hscopes t List.mem_cons_self) scopes
      rw [spaceSeparated, toList_append_space,
        Text.singleSpaced_append_space_iff (by simpa using hs) (by simpa using hrest), ih hscopes,
        List.forall_mem_cons (a := s)]
      simp

theorem singleSpaced_joinScopes_iff {scopes : List String} :
    SingleSpaced (joinScopes scopes).toList ↔ ∀ s ∈ scopes, SingleSpaced s.toList := by
  rw [joinScopes, singleSpaced_spaceSeparated_iff (by simp)]
  constructor
  · intro h s hs
    by_cases hempty : s = ""
    · rw [hempty]
      exact singleSpaced_empty
    · exact h s (List.mem_filter.mpr ⟨hs, by simpa using hempty⟩)
  · intro h s hs
    exact h s (List.mem_filter.mp hs).1

theorem joinScopes_scopeList (scopes : String) :
    (joinScopes (scopeList scopes)).toList = [' '].intercalate (Text.words scopes.toList) := by
  have hne : ∀ s ∈ scopeList scopes, s ≠ "" := by
    intro s hs
    obtain ⟨w, hw, rfl⟩ := List.mem_map.mp hs
    simpa using (Text.isWord_of_mem_words hw).1
  have hall : (scopeList scopes).filter (· ≠ "") = scopeList scopes :=
    List.filter_eq_self.mpr fun s hs => by simpa using hne s hs
  rw [joinScopes, hall, toList_spaceSeparated, scopeList, List.map_map]
  simp [Function.comp_def]

/-- Only a text that has no other blanks comes out as it was. -/
theorem joinScopes_scopeList_eq_iff {scopes : String} :
    joinScopes (scopeList scopes) = scopes ↔ SingleSpaced scopes.toList := by
  constructor
  · intro h
    rw [← h, singleSpaced_joinScopes_iff]
    intro s hs
    obtain ⟨w, hw, rfl⟩ := List.mem_map.mp hs
    rw [String.toList_ofList]
    exact Text.singleSpaced_of_not_blank (Text.isWord_of_mem_words hw).2
  · intro h
    rw [← String.toList_inj, joinScopes_scopeList, Text.intercalate_words h]

end IdentityProvider
