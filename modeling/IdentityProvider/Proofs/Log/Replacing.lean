import IdentityProvider.Log.Redaction

/-!
# Replacing secrets

A text is replaced one place after the other, by what is found there or not. It may
be cut where no secret goes on, and then its two parts are replaced on their own
(`replace_append_cons`).
-/

namespace IdentityProvider.SecretPattern

variable {find : SecretPattern} {mask : List Char → List Char} {before : Option Char}
  {c : Char} {cs xs ys : List Char}

/-- There is nothing to replace at the beginning of the text. -/
def Misses (find : SecretPattern) (before : Option Char) (cs : List Char) : Prop :=
  ∀ s secret, find before cs ≠ some (s :: secret)

/-- What is found stands at the beginning of the text. -/
def FindsPrefixes (find : SecretPattern) : Prop :=
  ∀ before cs secret, find before cs = some secret → secret <+: cs

theorem misses_or_found (find : SecretPattern) (before : Option Char) (cs : List Char) :
    Misses find before cs ∨ ∃ s secret, find before cs = some (s :: secret) := by
  match hfind : find before cs with
  | none => exact .inl fun s secret h => by simp [hfind] at h
  | some [] => exact .inl fun s secret h => by simp [hfind] at h
  | some (s :: secret) => exact .inr ⟨s, secret, rfl⟩

theorem replaceFrom_of_found {s : Char} {secret : List Char}
    (h : find before (c :: cs) = some (s :: secret)) :
    replaceFrom find mask before (c :: cs) =
      mask (s :: secret) ++ replaceFrom find mask (secret.getLastD s) (cs.drop secret.length) := by
  rw [replaceFrom, h]

theorem replaceFrom_of_misses (h : Misses find before (c :: cs)) :
    replaceFrom find mask before (c :: cs) = c :: replaceFrom find mask c cs := by
  rw [replaceFrom]
  split
  · rename_i s secret hfound
    exact (h s secret hfound).elim
  · rfl

/-- A text without a character that every secret has is left as it is. -/
theorem replaceFrom_of_not_mem
    (hfind : ∀ before cs secret, find before cs = some secret → c ∈ cs) (hc : c ∉ cs) :
    replaceFrom find mask before cs = cs := by
  induction cs generalizing before with
  | nil => rw [replaceFrom]
  | cons d cs ih =>
    have hmiss : Misses find before (d :: cs) := fun s secret hfound =>
      hc (hfind _ _ _ hfound)
    rw [replaceFrom_of_misses hmiss, ih fun h => hc (List.mem_cons_of_mem _ h)]

-- ----- Cuts

/-- No secret has the character in it or minds it in front. -/
structure StopsAt (find : SecretPattern) (c : Char) : Prop where
  inside : ∀ before xs ys, find before (xs ++ c :: ys) = find before xs
  behind : ∀ cs, find (some c) cs = find none cs

theorem StopsAt.misses (hfinds : FindsPrefixes find) (hstops : StopsAt find c) :
    Misses find before (c :: ys) := by
  intro s secret hfound
  rw [show c :: ys = [] ++ c :: ys from rfl, hstops.inside] at hfound
  cases List.prefix_nil.mp (hfinds _ _ _ hfound)

theorem StopsAt.replaceFrom_behind (hstops : StopsAt find c) :
    replaceFrom find mask c ys = replace find mask ys := by
  rw [replace]
  cases ys with
  | nil => simp only [replaceFrom]
  | cons y ys => rw [replaceFrom, replaceFrom, hstops.behind]

theorem replaceFrom_append_cons (hfinds : FindsPrefixes find) (hstops : StopsAt find c) :
    replaceFrom find mask before (xs ++ c :: ys) =
      replaceFrom find mask before xs ++ c :: replace find mask ys := by
  induction before, xs using replaceFrom.induct find with
  | case1 before =>
    rw [List.nil_append, replaceFrom_of_misses (hstops.misses hfinds), hstops.replaceFrom_behind,
      replaceFrom, List.nil_append]
  | case2 before x xs s secret hfound ih =>
    have hlength : secret.length ≤ xs.length := by
      simpa using (hfinds _ _ _ hfound).length_le
    have hfound' : find before (x :: (xs ++ c :: ys)) = some (s :: secret) := by
      rw [← List.cons_append, hstops.inside, hfound]
    rw [List.cons_append, replaceFrom_of_found hfound', replaceFrom_of_found hfound,
      List.drop_append_of_le_length hlength, ih, List.append_assoc]
  | case3 before x xs hmiss ih =>
    have hmiss' : Misses find before (x :: (xs ++ c :: ys)) := by
      intro s secret hfound
      rw [← List.cons_append, hstops.inside] at hfound
      exact hmiss s secret hfound
    rw [List.cons_append, replaceFrom_of_misses hmiss', replaceFrom_of_misses hmiss, ih,
      List.cons_append]

/-- The two parts of a text around such a character are replaced on their own. -/
theorem replace_append_cons (hfinds : FindsPrefixes find) (hstops : StopsAt find c) :
    replace find mask (xs ++ c :: ys) = replace find mask xs ++ c :: replace find mask ys :=
  replaceFrom_append_cons hfinds hstops

end IdentityProvider.SecretPattern
