import IdentityProvider.Log.Redaction
import IdentityProvider.Text.Quoted
import Mathlib.Data.List.DropRight

/-!
# A quotation of a part is too short for the part

A token has two dots. `Shows.not_infix_of_part`: a text that shows at most one dot, or
whose dots are all in one quotation of a text no longer than a part of the token,
does not show the token. The part would have to stand in the quotation, with the
dot behind it, and a quotation shows no more characters of a token in one run than
there are in what is quoted.
-/

namespace IdentityProvider.Text

open SecretPattern (isTokenChar)

-- ----- Runs of characters of tokens

/-- How many characters of a token a text ends with. -/
def tokenRun (cs : List Char) : Nat := (cs.rtakeWhile isTokenChar).length

theorem tokenRun_concat (cs : List Char) (c : Char) :
    tokenRun (cs ++ [c]) = if isTokenChar c then tokenRun cs + 1 else 0 := by
  unfold tokenRun
  rw [List.rtakeWhile_concat]
  split <;> simp

theorem tokenRun_concat_le (cs : List Char) (c : Char) :
    tokenRun (cs ++ [c]) ≤ tokenRun cs + 1 := by
  rw [tokenRun_concat]
  split <;> omega

theorem tokenRun_of_stop (cs : List Char) (h : ¬ isTokenChar c) : tokenRun (cs ++ [c]) = 0 := by
  rw [tokenRun_concat, if_neg h]

theorem length_le_tokenRun (front : List Char) {part : List Char}
    (h : ∀ c ∈ part, isTokenChar c) : part.length ≤ tokenRun (front ++ part) := by
  induction part using List.reverseRecOn with
  | nil => exact Nat.zero_le _
  | append_singleton part c ih =>
    have hc := h c (by simp)
    have hpart := ih fun d hd => h d (List.mem_append_left _ hd)
    rw [← List.append_assoc, tokenRun_concat, if_pos hc, List.length_append, List.length_singleton]
    omega

-- ----- Dots

/-- What has no dot does not reach up to one. -/
theorem exists_of_dot_behind {xs ys front rest : List Char} (hxs : '.' ∉ xs)
    (h : xs ++ ys = front ++ '.' :: rest) :
    ∃ front', front = xs ++ front' ∧ ys = front' ++ '.' :: rest := by
  rcases List.append_eq_append_iff.mp h with ⟨front', hfront, hys⟩ | ⟨rest', hxs', hrest⟩
  · exact ⟨front', hfront, hys⟩
  · cases rest' with
    | nil => exact ⟨[], by simp [hxs'], by simpa using hrest.symm⟩
    | cons c rest' =>
      rw [List.cons_append, List.cons.injEq] at hrest
      obtain ⟨rfl, -⟩ := hrest
      exact absurd (by simp [hxs']) hxs

theorem exists_of_dot_before {xs ys front rest : List Char} (hys : '.' ∉ ys)
    (h : xs ++ ys = front ++ '.' :: rest) : ∃ rest', xs = front ++ '.' :: rest' := by
  rcases List.append_eq_append_iff.mp h with ⟨front', -, hys'⟩ | ⟨rest', hxs, hrest⟩
  · exact absurd (by simp [hys']) hys
  · cases rest' with
    | nil =>
      rw [List.nil_append] at hrest
      exact absurd (by simp [← hrest]) hys
    | cons c rest' =>
      rw [List.cons_append, List.cons.injEq] at hrest
      exact ⟨rest', by rw [hxs, hrest.1]⟩

-- ----- Quoting

/-- A way to quote a text character by character. Dots stay what they are and come
from nothing else, and a character makes a run of a token's characters longer by no
more than one. -/
structure Quoting (quote : Char → List Char) : Prop where
  dot : quote '.' = ['.']
  dotless : ∀ {c}, c ≠ '.' → '.' ∉ quote c
  tokenRun_le : ∀ front c, tokenRun (front ++ quote c) ≤ tokenRun front + 1

theorem Quoting.verbatim : Quoting fun c => [c] where
  dot := rfl
  dotless h := by simpa using h.symm
  tokenRun_le := tokenRun_concat_le

theorem dot_not_mem_toDigits (hb : 1 < b) (n : Nat) : '.' ∉ Nat.toDigits b n := by
  have hdigit (d : Nat) : d.digitChar ≠ '.' := by
    fun_cases Nat.digitChar d <;> decide
  induction n using Nat.strongRecOn with
  | ind n ih =>
    rw [Nat.toDigits_eq_if hb]
    split
    · simp [(hdigit n).symm]
    · have hrest := ih (n / b) (Nat.div_lt_self (by omega) hb)
      simp [hrest, (hdigit (n % b)).symm]

theorem Quoting.escaped : Quoting quotedChar where
  dot := by decide +kernel
  dotless {c} h := by
    have hdigits := dot_not_mem_toDigits (b := 16) (by decide) c.toNat
    unfold quotedChar
    repeat' split
    all_goals simp [codePoint, hexDigits, hdigits, h.symm]
  tokenRun_le front c := by
    have hpair (d : Char) : tokenRun (front ++ ['\\', d]) ≤ tokenRun front + 1 := by
      have hle := tokenRun_concat_le (front ++ ['\\']) d
      rw [tokenRun_of_stop front (by decide), List.append_assoc] at hle
      exact hle.trans (Nat.le_add_left _ _)
    unfold quotedChar
    repeat' split
    any_goals exact hpair _
    · rw [codePoint, ← List.append_assoc, tokenRun_of_stop _ (by decide)]
      exact Nat.zero_le _
    · exact tokenRun_concat_le front c

namespace Quoting

variable {quote : Char → List Char}

theorem exists_of_dot (hq : Quoting quote) {t front rest : List Char}
    (h : t.flatMap quote = front ++ '.' :: rest) :
    ∃ before behind, t = before ++ '.' :: behind ∧ front = before.flatMap quote := by
  induction t generalizing front with
  | nil => simp at h
  | cons c t ih =>
    rw [List.flatMap_cons] at h
    by_cases hc : c = '.'
    · subst hc
      rw [hq.dot] at h
      cases front with
      | nil => exact ⟨[], t, rfl, rfl⟩
      | cons d front =>
        rw [List.cons_append, List.nil_append, List.cons_append, List.cons.injEq] at h
        obtain ⟨before, behind, ht, hfront⟩ := ih h.2
        exact ⟨'.' :: before, behind, by rw [ht]; rfl, by simp [hq.dot, ← h.1, hfront]⟩
    · obtain ⟨front', hfront', h⟩ := exists_of_dot_behind (hq.dotless hc) h
      obtain ⟨before, behind, ht, hfront⟩ := ih h
      exact ⟨c :: before, behind, by rw [ht]; rfl, by simp [hfront', hfront]⟩

theorem tokenRun_flatMap_le (hq : Quoting quote) (front t : List Char) :
    tokenRun (front ++ t.flatMap quote) ≤ tokenRun front + t.length := by
  induction t generalizing front with
  | nil => simp
  | cons c t ih =>
    calc tokenRun (front ++ (c :: t).flatMap quote)
      _ = tokenRun (front ++ quote c ++ t.flatMap quote) := by simp
      _ ≤ tokenRun (front ++ quote c) + t.length := ih _
      _ ≤ tokenRun front + 1 + t.length := Nat.add_le_add_right (hq.tokenRun_le front c) _
      _ = tokenRun front + (c :: t).length := by rw [List.length_cons]; omega

end Quoting

-- ----- What a text shows

/-- A text with one dot at most, or whose dots are all in one quotation of a text of
at most `n` characters. -/
inductive Shows (n : Nat) : List Char → Prop
  | plain (h : text.count '.' ≤ 1) : Shows n text
  | quotation {t : List Char} (hpre : '.' ∉ pre) (hmark : ¬ isTokenChar mark ∧ mark ≠ '.')
      (hq : Quoting quote) (hlength : t.length ≤ n) (hpost : '.' ∉ post) :
    Shows n (pre ++ mark :: (t.flatMap quote ++ post))

namespace Shows

theorem of_dotless (h : '.' ∉ text) : Shows n text := .plain (by simp [List.count_eq_zero.mpr h])

theorem behind (h : Shows n text) (hpre : '.' ∉ pre) : Shows n (pre ++ text) := by
  cases h with
  | plain h => exact .plain (by simpa [List.count_eq_zero.mpr hpre] using h)
  | quotation hpre' hmark hq hlength hpost =>
    rw [← List.append_assoc]
    exact .quotation (by simp [hpre, hpre']) hmark hq hlength hpost

theorem before (h : Shows n text) (hpost : '.' ∉ post) : Shows n (text ++ post) := by
  cases h with
  | plain h => exact .plain (by simpa [List.count_eq_zero.mpr hpost] using h)
  | quotation hpre hmark hq hlength hpost' =>
    rw [List.append_assoc, List.cons_append, List.append_assoc]
    exact .quotation hpre hmark hq hlength (by simp [hpost, hpost'])

/-- Before a dot there are fewer than `n` characters of a token in a row. -/
theorem tokenRun_lt (h : Shows n text) (hdots : 1 < text.count '.')
    (heq : text = front ++ '.' :: rest) : tokenRun front < n := by
  cases h with
  | plain h => omega
  | @quotation pre mark quote post t hpre hmark hq hlength hpost =>
    have hopen : '.' ∉ pre ++ [mark] := by simp [hpre, hmark.2.symm]
    rw [List.append_cons] at heq
    obtain ⟨front', rfl, hquoted⟩ := exists_of_dot_behind hopen heq
    obtain ⟨rest', hquoted⟩ := exists_of_dot_before hpost hquoted
    obtain ⟨before, behind, rfl, rfl⟩ := hq.exists_of_dot hquoted
    calc tokenRun (pre ++ [mark] ++ before.flatMap quote)
      _ ≤ tokenRun (pre ++ [mark]) + before.length := hq.tokenRun_flatMap_le _ _
      _ = before.length := by rw [tokenRun_of_stop pre hmark.1, Nat.zero_add]
      _ < (before ++ '.' :: behind).length := by simp
      _ ≤ n := hlength

/-- A part of a token, and the dot behind it. -/
theorem not_infix_of_part (h : Shows n text) {front part rest : List Char}
    (hpart : ∀ c ∈ part, isTokenChar c) (hlength : n ≤ part.length)
    (hdots : 1 < (front ++ (part ++ '.' :: rest)).count '.') :
    ¬ front ++ (part ++ '.' :: rest) <:+: text := by
  rintro ⟨before, behind, heq⟩
  have hdots' : 1 < text.count '.' := by
    rw [← heq, List.count_append, List.count_append]
    omega
  have hplace : text = (before ++ front ++ part) ++ '.' :: (rest ++ behind) := by
    rw [← heq]
    simp
  have hrun := length_le_tokenRun (before ++ front) hpart
  have hlt := h.tokenRun_lt hdots' hplace
  omega

end Shows

end IdentityProvider.Text
