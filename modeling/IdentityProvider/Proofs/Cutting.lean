import IdentityProvider.Bytes

/-!
# Cutting byte strings

`splitOn_eq_iff`: a text falls into some parts exactly when it is those parts
with the separator between them, and none of them has the separator.
-/

namespace IdentityProvider.Bytes

theorem splitOn_of_not_mem {sep : UInt8} {bs : Bytes} (h : sep ∉ bs) : splitOn sep bs = [bs] := by
  induction bs with
  | nil => rfl
  | cons b rest ih =>
    rw [List.mem_cons, not_or] at h
    obtain ⟨hb, hrest⟩ := h
    simp [splitOn, Ne.symm hb, ih hrest]

theorem splitOn_append_cons {sep : UInt8} {part rest : Bytes} (h : sep ∉ part) :
    splitOn sep (part ++ sep :: rest) = part :: splitOn sep rest := by
  induction part with
  | nil => simp [splitOn]
  | cons b part ih =>
    rw [List.mem_cons, not_or] at h
    obtain ⟨hb, hpart⟩ := h
    simp [splitOn, Ne.symm hb, ih hpart]

/-- The first part ends at the first separator, or nowhere. -/
theorem splitOn_eq_cons {sep : UInt8} {bs part : Bytes} {parts : List Bytes}
    (h : splitOn sep bs = part :: parts) :
    sep ∉ part ∧ (parts = [] ∧ bs = part ∨
      ∃ rest, bs = part ++ sep :: rest ∧ splitOn sep rest = parts) := by
  induction bs generalizing part with
  | nil =>
    obtain ⟨rfl, rfl⟩ := List.cons.inj h
    simp
  | cons b bs ih =>
    by_cases hb : b = sep
    · subst hb
      simp only [splitOn, if_true] at h
      obtain ⟨rfl, rfl⟩ := List.cons.inj h
      exact ⟨by simp, .inr ⟨bs, rfl, rfl⟩⟩
    · cases hs : splitOn sep bs with
      | nil => exact absurd hs (splitOn_ne_nil sep bs)
      | cons first others =>
        simp only [splitOn, hb, if_false, hs] at h
        obtain ⟨rfl, rfl⟩ := List.cons.inj h
        obtain ⟨hfirst, hrest⟩ := ih hs
        refine ⟨by simp [Ne.symm hb, hfirst], ?_⟩
        rcases hrest with ⟨rfl, rfl⟩ | ⟨rest, rfl, rfl⟩
        · exact .inl ⟨rfl, rfl⟩
        · exact .inr ⟨rest, rfl, rfl⟩

theorem splitOn_intercalate {sep : UInt8} {parts : List Bytes} (hne : parts ≠ [])
    (hfree : ∀ part ∈ parts, sep ∉ part) : splitOn sep ([sep].intercalate parts) = parts := by
  induction parts with
  | nil => exact absurd rfl hne
  | cons part parts ih =>
    have hpart := hfree part List.mem_cons_self
    cases parts with
    | nil =>
      rw [List.intercalate_singleton]
      exact splitOn_of_not_mem hpart
    | cons next parts =>
      have hrest := ih (by simp) fun p hp => hfree p (List.mem_cons_of_mem _ hp)
      rw [List.intercalate_cons_cons, List.append_assoc, List.singleton_append,
        splitOn_append_cons hpart, hrest]

theorem splitOn_eq_iff {sep : UInt8} {bs : Bytes} {parts : List Bytes} :
    splitOn sep bs = parts ↔
      parts ≠ [] ∧ bs = [sep].intercalate parts ∧ ∀ part ∈ parts, sep ∉ part := by
  constructor
  · rintro rfl
    refine ⟨splitOn_ne_nil sep bs, ?_⟩
    generalize hparts : splitOn sep bs = parts
    induction parts generalizing bs with
    | nil => exact absurd hparts (splitOn_ne_nil sep bs)
    | cons part parts ih =>
      obtain ⟨hpart, ⟨rfl, rfl⟩ | ⟨rest, rfl, rfl⟩⟩ := splitOn_eq_cons hparts
      · simp [hpart]
      · obtain ⟨hrest, hfree⟩ := ih rfl
        refine ⟨?_, by simpa using ⟨hpart, hfree⟩⟩
        cases hs : splitOn sep rest with
        | nil => exact absurd hs (splitOn_ne_nil sep rest)
        | cons next others =>
          rw [List.intercalate_cons_cons, ← hs, ← hrest, List.append_assoc, List.singleton_append]
  · rintro ⟨hne, rfl, hfree⟩
    exact splitOn_intercalate hne hfree

theorem splitOn_eq_three_iff {sep : UInt8} {bs a b c : Bytes} :
    splitOn sep bs = [a, b, c] ↔
      bs = a ++ sep :: (b ++ sep :: c) ∧ sep ∉ a ∧ sep ∉ b ∧ sep ∉ c := by
  simp [splitOn_eq_iff, List.intercalate_cons_cons, List.intercalate_singleton]

theorem length_splitOn (sep : UInt8) (bs : Bytes) :
    (splitOn sep bs).length = bs.count sep + 1 := by
  induction bs with
  | nil => rfl
  | cons b bs ih =>
    by_cases hb : b = sep
    · simp [splitOn, hb, ih]
    · cases hs : splitOn sep bs with
      | nil => exact absurd hs (splitOn_ne_nil sep bs)
      | cons first others =>
        simp only [hs, List.length_cons] at ih
        simp [splitOn, hb, hs, ih]

end IdentityProvider.Bytes
