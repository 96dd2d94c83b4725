import IdentityProvider.Proofs.Log.Replacing

/-!
# Places in a replaced text

Replacing cuts a text into characters that are kept and secrets that are masked (`parts`), and
shows both one behind the other (`shown_parts`). A place of the replaced text is in front of one
of these parts or within a mask (`shown_eq_append`). The fixed part of a secret is not within a
mask, so it consists of characters that were kept (`parts_of_needle`). A text is left as it is
exactly if the pattern matches nowhere in it (`replaceFrom_eq_self_iff`).
-/

namespace IdentityProvider.SecretPattern

variable {find : SecretPattern} {mask : List Char → List Char} {before : Option Char}
  {c : Char} {cs ns xs ys front rest : List Char}

-- ----- The character before a place

/-- The character before what follows the text. -/
def behind (before : Option Char) (cs : List Char) : Option Char := cs.getLast?.or before

@[simp] theorem behind_nil (before : Option Char) : behind before [] = before := rfl

@[simp] theorem behind_none (cs : List Char) : behind none cs = cs.getLast? := Option.or_none

theorem behind_cons (before : Option Char) (c : Char) (cs : List Char) :
    behind before (c :: cs) = behind (some c) cs := by
  cases h : cs.getLast? <;> simp [behind, List.getLast?_cons, h]

theorem behind_append (before : Option Char) (xs ys : List Char) :
    behind before (xs ++ ys) = behind (behind before xs) ys := by
  simp [behind, List.getLast?_append, Option.or_assoc]

theorem behind_cons_eq_some (before : Option Char) (c : Char) (cs : List Char) :
    behind before (c :: cs) = some (cs.getLastD c) := by
  simp [behind, List.getLast?_cons, List.getLastD_eq_getLast?]

-- ----- Texts with nothing to find

/-- The pattern matches nowhere. -/
def Clear (find : SecretPattern) (before : Option Char) (cs : List Char) : Prop :=
  ∀ front rest, cs = front ++ rest → find (behind before front) rest = none

theorem clear_nil_iff : Clear find before [] ↔ find before [] = none := by
  constructor
  · intro h
    exact h [] [] rfl
  · intro h front rest heq
    obtain ⟨rfl, rfl⟩ := List.append_eq_nil_iff.mp heq.symm
    exact h

theorem clear_cons_iff :
    Clear find before (c :: cs) ↔ find before (c :: cs) = none ∧ Clear find (some c) cs := by
  constructor
  · intro h
    refine ⟨h [] _ rfl, fun front rest heq => ?_⟩
    rw [← behind_cons before]
    exact h (c :: front) rest (by rw [heq, List.cons_append])
  · rintro ⟨hhere, hrest⟩ front rest heq
    rcases List.cons_eq_append_iff.mp heq with ⟨rfl, rfl⟩ | ⟨front, rfl, htail⟩
    · exact hhere
    · rw [behind_cons]
      exact hrest front rest htail

instance decidableClear (find : SecretPattern) :
    (before : Option Char) → (cs : List Char) → Decidable (Clear find before cs)
  | _, [] => decidable_of_iff _ clear_nil_iff.symm
  | _, c :: cs =>
    have := decidableClear find (some c) cs
    decidable_of_iff _ clear_cons_iff.symm

-- ----- Parts

/-- A replaced text consists of characters that are kept and secrets that are masked. -/
inductive Part where
  | kept (c : Char)
  | masked (secret : List Char)

/-- The parts of a text, as replacing comes upon them. -/
def parts (find : SecretPattern) : Option Char → List Char → List Part
  | _, [] => []
  | before, c :: cs =>
    match find before (c :: cs) with
    | some (s :: secret) =>
      .masked (s :: secret) :: parts find (secret.getLastD s) (cs.drop secret.length)
    | _ => .kept c :: parts find c cs
  termination_by _ cs => cs.length
  decreasing_by all_goals simp only [List.length_drop, List.length_cons]; omega

/-- The text that the parts are of. -/
def original : List Part → List Char
  | [] => []
  | .kept c :: ps => c :: original ps
  | .masked secret :: ps => secret ++ original ps

/-- The text that becomes of the parts. -/
def shown (mask : List Char → List Char) : List Part → List Char
  | [] => []
  | .kept c :: ps => c :: shown mask ps
  | .masked secret :: ps => mask secret ++ shown mask ps

@[simp] theorem original_append (as bs : List Part) :
    original (as ++ bs) = original as ++ original bs := by
  induction as with
  | nil => rfl
  | cons p as ih => cases p <;> simp [original, ih]

@[simp] theorem shown_append (as bs : List Part) :
    shown mask (as ++ bs) = shown mask as ++ shown mask bs := by
  induction as with
  | nil => rfl
  | cons p as ih => cases p <;> simp [shown, ih]

@[simp] theorem original_map_kept (ns : List Char) : original (ns.map .kept) = ns := by
  induction ns with
  | nil => rfl
  | cons n ns ih => simp [original, ih]

@[simp] theorem shown_map_kept (ns : List Char) : shown mask (ns.map .kept) = ns := by
  induction ns with
  | nil => rfl
  | cons n ns ih => simp [shown, ih]

theorem parts_of_found {s : Char} {secret : List Char}
    (h : find before (c :: cs) = some (s :: secret)) : parts find before (c :: cs) =
      .masked (s :: secret) :: parts find (secret.getLastD s) (cs.drop secret.length) := by
  rw [parts, h]

theorem parts_of_misses (h : Misses find before (c :: cs)) :
    parts find before (c :: cs) = .kept c :: parts find c cs := by
  rw [parts]
  split
  · rename_i s secret hfound
    exact (h s secret hfound).elim
  · rfl

/-- Replacing shows the parts of the text. -/
theorem shown_parts (find : SecretPattern) (mask : List Char → List Char) (before : Option Char)
    (cs : List Char) : shown mask (parts find before cs) = replaceFrom find mask before cs := by
  induction before, cs using replaceFrom.induct find with
  | case1 before => rw [parts, shown, replaceFrom]
  | case2 before c cs s secret hfound ih =>
    rw [parts_of_found hfound, shown, ih, replaceFrom_of_found hfound]
  | case3 before c cs hmiss ih => rw [parts_of_misses hmiss, shown, ih, replaceFrom_of_misses hmiss]

theorem original_parts (hfinds : FindsPrefixes find) (before : Option Char) (cs : List Char) :
    original (parts find before cs) = cs := by
  induction before, cs using replaceFrom.induct find with
  | case1 before => rw [parts, original]
  | case2 before c cs s secret hfound ih =>
    rw [parts_of_found hfound, original, ih]
    exact List.prefix_iff_eq_append.mp (hfinds _ _ _ hfound)
  | case3 before c cs hmiss ih => rw [parts_of_misses hmiss, original, ih]

/-- The parts behind some of them are the parts of the text behind those. -/
theorem parts_behind (hfinds : FindsPrefixes find) {as bs : List Part}
    (h : parts find before cs = as ++ bs) :
    parts find (behind before (original as)) (original bs) = bs := by
  induction as generalizing before cs with
  | nil =>
    rw [List.nil_append] at h
    rw [← h, original_parts hfinds, original, behind_nil]
  | cons p as ih =>
    cases cs with
    | nil =>
      rw [parts] at h
      exact (List.cons_ne_nil _ _ h.symm).elim
    | cons c cs =>
      rcases misses_or_found find before (c :: cs) with hmiss | ⟨s, secret, hfound⟩
      · rw [parts_of_misses hmiss] at h
        obtain ⟨rfl, htail⟩ := List.cons.inj h
        rw [original, behind_cons, ih htail]
      · rw [parts_of_found hfound] at h
        obtain ⟨rfl, htail⟩ := List.cons.inj h
        rw [original, behind_append, behind_cons_eq_some, ih htail]

theorem misses_of_parts {ps : List Part} (h : parts find before cs = .kept c :: ps) :
    Misses find before cs := by
  rcases misses_or_found find before cs with hmiss | ⟨s, secret, hfound⟩
  · exact hmiss
  · cases cs with
    | nil => rw [parts] at h; cases h
    | cons d cs => rw [parts_of_found hfound] at h; cases h

theorem found_of_parts {secret : List Char} {ps : List Part}
    (h : parts find before cs = .masked secret :: ps) : find before cs = some secret := by
  cases cs with
  | nil =>
    rw [parts] at h
    cases h
  | cons c cs =>
    rcases misses_or_found find before (c :: cs) with hmiss | ⟨s, secret', hfound⟩
    · rw [parts_of_misses hmiss] at h
      cases h
    · rw [parts_of_found hfound] at h
      cases h
      exact hfound

/-- The secret is masked where it stands in the text: what was in front of it has become `front`,
and what followed it `rest`. -/
def Masks (find : SecretPattern) (mask : List Char → List Char)
    (cs front secret rest : List Char) : Prop :=
  ∃ as bs, parts find none cs = as ++ .masked secret :: bs ∧ front = shown mask as ∧
    rest = shown mask bs

theorem Masks.replace_eq {secret : List Char} (h : Masks find mask cs front secret rest) :
    replace find mask cs = front ++ (mask secret ++ rest) := by
  obtain ⟨as, bs, hparts, rfl, rfl⟩ := h
  rw [replace, ← shown_parts, hparts, shown_append, shown]

theorem Masks.found {secret : List Char} (hfinds : FindsPrefixes find)
    (h : Masks find mask cs front secret rest) :
    ∃ xs ys, cs = xs ++ (secret ++ ys) ∧ find xs.getLast? (secret ++ ys) = some secret := by
  obtain ⟨as, bs, hparts, -, -⟩ := h
  refine ⟨original as, original bs, ?_, ?_⟩
  · rw [← original_parts hfinds none cs, hparts, original_append, original]
  · rw [← behind_none]
    exact found_of_parts (parts_behind hfinds hparts)

/-- A place of a replaced text is in front of a part of it or within a mask. -/
theorem shown_eq_append {ps : List Part} (h : shown mask ps = front ++ rest) :
    (∃ as bs, ps = as ++ bs ∧ front = shown mask as ∧ rest = shown mask bs) ∨
      ∃ secret part more, part <:+ mask secret ∧ part ≠ [] ∧ rest = part ++ more := by
  induction ps generalizing front with
  | nil =>
    obtain ⟨rfl, rfl⟩ := List.append_eq_nil_iff.mp h.symm
    exact .inl ⟨[], [], rfl, rfl, rfl⟩
  | cons p ps ih =>
    cases p with
    | kept c =>
      rcases List.cons_eq_append_iff.mp h with ⟨rfl, rfl⟩ | ⟨front, rfl, hbehind⟩
      · exact .inl ⟨[], .kept c :: ps, rfl, rfl, rfl⟩
      · rcases ih hbehind with ⟨as, bs, rfl, rfl, rfl⟩ | hwithin
        · exact .inl ⟨.kept c :: as, bs, rfl, rfl, rfl⟩
        · exact .inr hwithin
    | masked secret =>
      rcases List.append_eq_append_iff.mp h with ⟨front, rfl, hbehind⟩ | ⟨part, hpart, rfl⟩
      · rcases ih hbehind with ⟨as, bs, rfl, rfl, rfl⟩ | hwithin
        · exact .inl ⟨.masked secret :: as, bs, rfl, rfl, rfl⟩
        · exact .inr hwithin
      · by_cases hne : part = []
        · subst hne
          exact .inl ⟨[.masked secret], ps, rfl, by simpa [shown] using hpart.symm, rfl⟩
        · exact .inr ⟨secret, part, shown mask ps, ⟨front, hpart.symm⟩, hne, rfl⟩

-- ----- Masks and needles

/-- A mask says in brackets what was there, in other characters than the marks of secrets. -/
structure IsMask (cs : List Char) : Prop where
  opening : '[' ∈ cs
  closing : cs.getLast? = some ']'
  dot : '.' ∉ cs
  dollar : '$' ∉ cs

/-- The fixed part of a secret ends with a mark and has no brackets. -/
structure IsNeedle (ns : List Char) : Prop where
  mark : ns.getLast? = some '.' ∨ ns.getLast? = some '$'
  opening : '[' ∉ ns
  closing : ']' ∉ ns

theorem IsNeedle.ne_nil (h : IsNeedle ns) : ns ≠ [] := by
  rintro rfl
  rcases h.mark with h | h <;> cases h

theorem IsNeedle.tail {n : Char} (h : IsNeedle (n :: ns)) (hne : ns ≠ []) : IsNeedle ns where
  mark := by
    have hmark := h.mark
    rwa [List.getLast?_cons_of_ne_nil hne] at hmark
  opening := List.not_mem_of_not_mem_cons h.opening
  closing := List.not_mem_of_not_mem_cons h.closing

/-- No needle begins within a mask. -/
theorem not_prefix_of_suffix_mask {m part more : List Char} (hm : IsMask m) (hns : IsNeedle ns)
    (hpart : part <:+ m) (hne : part ≠ []) : ¬ ns <+: part ++ more := by
  intro h
  rcases List.prefix_or_prefix_of_prefix h (List.prefix_append part more) with hshort | hlong
  · have hmem {x : Char} (hx : ns.getLast? = some x) : x ∈ m :=
      hpart.subset (hshort.subset (List.mem_of_getLast? hx))
    rcases hns.mark with hx | hx
    · exact hm.dot (hmem hx)
    · exact hm.dollar (hmem hx)
  · obtain ⟨shown, rfl⟩ := hpart
    have hclosing := hm.closing
    rw [List.getLast?_append, List.getLast?_eq_some_getLast hne, Option.some_or] at hclosing
    have hlast := hlong.subset (List.getLast_mem hne)
    rw [Option.some.inj hclosing] at hlast
    exact hns.closing hlast

section

variable (hmask : ∀ secret, IsMask (mask secret))

include hmask

/-- What begins with a needle after the replacing began with it before. -/
theorem kept_of_needle (hns : IsNeedle ns) {ps : List Part} (h : ns <+: shown mask ps) :
    ∃ bs, ps = ns.map .kept ++ bs := by
  induction ns generalizing ps with
  | nil => exact (hns.ne_nil rfl).elim
  | cons n ns ih =>
    cases ps with
    | nil => exact (List.cons_ne_nil _ _ (List.prefix_nil.mp h)).elim
    | cons p ps =>
      cases p with
      | kept c =>
        obtain ⟨rfl, hbegins⟩ := List.cons_prefix_cons.mp h
        by_cases hne : ns = []
        · subst hne
          exact ⟨ps, rfl⟩
        · obtain ⟨bs, rfl⟩ := ih (hns.tail hne) hbegins
          exact ⟨bs, rfl⟩
      | masked secret =>
        -- A mask here would have to begin with the needle, and has no mark.
        have hm := hmask secret
        exact (not_prefix_of_suffix_mask hm hns (List.suffix_refl _)
          (List.ne_nil_of_mem hm.opening) h).elim

/-- A needle in a replaced text is one of characters that were kept. -/
theorem parts_of_needle (hns : IsNeedle ns) (h : replace find mask cs = front ++ rest)
    (hrest : ns <+: rest) : ∃ as bs, parts find none cs = as ++ (ns.map .kept ++ bs) ∧
      front = shown mask as ∧ rest = ns ++ shown mask bs := by
  rw [replace, ← shown_parts] at h
  rcases shown_eq_append h with ⟨as, bs, hparts, rfl, rfl⟩ | ⟨secret, part, more, hpart, hne, rfl⟩
  · obtain ⟨bs, rfl⟩ := kept_of_needle hmask hns hrest
    exact ⟨as, bs, hparts, rfl, by rw [shown_append, shown_map_kept]⟩
  · exact (not_prefix_of_suffix_mask (hmask secret) hns hpart hne hrest).elim

omit hmask in
/-- Where a needle was kept, nothing was found. -/
theorem misses_of_needle (hfinds : FindsPrefixes find) (hns : IsNeedle ns) {as bs : List Part}
    (h : parts find none cs = as ++ (ns.map .kept ++ bs)) :
    cs = original as ++ (ns ++ original bs) ∧
      Misses find (original as).getLast? (ns ++ original bs) := by
  have hbehind := parts_behind hfinds h
  rw [behind_none, original_append, original_map_kept] at hbehind
  constructor
  · rw [← original_parts hfinds none cs, h, original_append, original_append, original_map_kept]
  · obtain ⟨n, ns, rfl⟩ := List.exists_cons_of_ne_nil hns.ne_nil
    exact misses_of_parts hbehind

/-- A needle that is left was there before, and nothing was found at its place. -/
theorem source_of_infix_replace (hfinds : FindsPrefixes find) (hns : IsNeedle ns)
    (h : ns <:+: replace find mask cs) :
    ∃ xs ys, cs = xs ++ (ns ++ ys) ∧ Misses find xs.getLast? (ns ++ ys) := by
  obtain ⟨front, rest, heq⟩ := h
  rw [List.append_assoc] at heq
  obtain ⟨as, bs, hparts, -, -⟩ :=
    parts_of_needle hmask hns heq.symm (List.prefix_append ns rest)
  exact ⟨_, _, misses_of_needle hfinds hns hparts⟩

/-- What a replaced text begins with was there before, or the beginning of a mask completes it. -/
theorem prefix_or_completed (hns : '[' ∉ ns) {ps : List Part} (h : ns <+: shown mask ps) :
    ns <+: original ps ∨ ∃ kept part secret bs, ns = kept ++ part ∧ part ≠ [] ∧
      part <+: mask secret ∧ ps = kept.map .kept ++ .masked secret :: bs := by
  induction ns generalizing ps with
  | nil => exact .inl List.nil_prefix
  | cons n ns ih =>
    cases ps with
    | nil => exact (List.cons_ne_nil _ _ (List.prefix_nil.mp h)).elim
    | cons p ps =>
      cases p with
      | kept c =>
        obtain ⟨rfl, hbegins⟩ := List.cons_prefix_cons.mp h
        rcases ih (List.not_mem_of_not_mem_cons hns) hbegins with
          hthere | ⟨kept, part, secret, bs, rfl, hne, hpart, rfl⟩
        · exact .inl (List.cons_prefix_cons.mpr ⟨rfl, hthere⟩)
        · exact .inr ⟨n :: kept, part, secret, bs, rfl, hne, hpart, rfl⟩
      | masked secret =>
        right
        refine ⟨[], n :: ns, secret, ps, rfl, List.cons_ne_nil _ _, ?_, rfl⟩
        rcases List.prefix_or_prefix_of_prefix h (List.prefix_append _ _) with hshort | hlong
        · exact hshort
        · exact (hns (hlong.subset (hmask secret).opening)).elim

omit hmask in
/-- The same character is in front of a place as before, or a mask is. -/
theorem getLast?_shown (mask : List Char → List Char) (as : List Part) :
    (shown mask as).getLast? = (original as).getLast? ∨
      ∃ init secret, as = init ++ [.masked secret] := by
  rcases List.eq_nil_or_concat as with rfl | ⟨init, p, rfl⟩
  · exact .inl rfl
  · cases p with
    | kept c => simp [original, shown]
    | masked secret => exact .inr ⟨init, secret, List.concat_eq_append⟩

end

-- ----- Marks

def isMark (c : Char) : Bool := c = '.' || c = '$'

/-- What is found stands at the beginning of the text and has a mark in it. -/
def Marked (find : SecretPattern) : Prop :=
  ∀ before cs secret, find before cs = some secret → secret <+: cs ∧ 0 < secret.countP isMark

theorem Marked.findsPrefixes (h : Marked find) : FindsPrefixes find :=
  fun before cs secret hfound => (h before cs secret hfound).1

theorem Marked.ne_nil {secret : List Char} (h : Marked find)
    (hfound : find before cs = some secret) : secret ≠ [] := by
  rintro rfl
  exact absurd (h _ _ _ hfound).2 (by simp)

theorem Marked.misses_iff (hfind : Marked find) :
    Misses find before cs ↔ find before cs = none := by
  constructor
  · intro h
    rcases hfound : find before cs with _ | ⟨_ | ⟨s, secret⟩⟩
    · rfl
    · exact (hfind.ne_nil hfound rfl).elim
    · exact (h s secret hfound).elim
  · intro h s secret hfound
    rw [h] at hfound
    cases hfound

theorem countP_mask {m : List Char} (hm : IsMask m) : m.countP isMark = 0 := by
  rw [List.countP_eq_zero]
  intro c hc
  simp only [isMark, Bool.or_eq_true, decide_eq_true_eq, not_or]
  exact ⟨fun h => hm.dot (h ▸ hc), fun h => hm.dollar (h ▸ hc)⟩

/-- Replacing takes marks away, unless there is nothing to replace. -/
theorem clear_or_countP_lt (hfind : Marked find) (hmask : ∀ secret, IsMask (mask secret)) :
    (Clear find before cs ∧ replaceFrom find mask before cs = cs) ∨
      (replaceFrom find mask before cs).countP isMark < cs.countP isMark := by
  induction before, cs using replaceFrom.induct find with
  | case1 before =>
    left
    rw [replaceFrom, clear_nil_iff]
    refine ⟨?_, rfl⟩
    rw [← hfind.misses_iff]
    intro s secret hfound
    exact List.cons_ne_nil _ _ (List.prefix_nil.mp (hfind _ _ _ hfound).1)
  | case2 before c cs s secret hfound ih =>
    right
    obtain ⟨hbegins, hmark⟩ := hfind _ _ _ hfound
    obtain ⟨tail, htail⟩ := hbegins
    have hdrop : cs.drop secret.length = tail := by
      obtain ⟨-, rfl⟩ := List.cons.inj htail
      exact List.drop_left
    rw [hdrop] at ih
    have hle : (replaceFrom find mask (some (secret.getLastD s)) tail).countP isMark ≤
        tail.countP isMark := by
      rcases ih with ⟨-, heq⟩ | hlt
      · exact Nat.le_of_eq (by rw [heq])
      · exact Nat.le_of_lt hlt
    rw [replaceFrom_of_found hfound, hdrop, ← htail, List.countP_append, List.countP_append,
      countP_mask (hmask _)]
    omega
  | case3 before c cs hmiss ih =>
    rw [replaceFrom_of_misses hmiss, clear_cons_iff, ← hfind.misses_iff]
    rcases ih with ⟨hclear, heq⟩ | hlt
    · left
      exact ⟨⟨hmiss, hclear⟩, by rw [heq]⟩
    · right
      rw [List.countP_cons, List.countP_cons]
      omega

theorem replaceFrom_of_clear (h : Clear find before cs) : replaceFrom find mask before cs = cs := by
  induction cs generalizing before with
  | nil => rw [replaceFrom]
  | cons c cs ih =>
    obtain ⟨hhere, hrest⟩ := clear_cons_iff.mp h
    have hmiss : Misses find before (c :: cs) := fun s secret hfound => by simp [hhere] at hfound
    rw [replaceFrom_of_misses hmiss, ih hrest]

theorem replaceFrom_eq_self_iff (hfind : Marked find) (hmask : ∀ secret, IsMask (mask secret)) :
    replaceFrom find mask before cs = cs ↔ Clear find before cs := by
  refine ⟨fun h => ?_, replaceFrom_of_clear⟩
  rcases clear_or_countP_lt hfind hmask with ⟨hclear, -⟩ | hlt
  · exact hclear
  · rw [h] at hlt
    exact (Nat.lt_irrefl _ hlt).elim

end IdentityProvider.SecretPattern
