import IdentityProvider.Proofs.Storage.Lookups
import IdentityProvider.Storage.Tokens
import Mathlib.Data.Set.Card

/-!
# What a token store still holds

`has_and_size_run`: after any calls a store holds the tokens that were saved and
neither deleted since nor overtaken by their expiry at a later save (`Kept`), and
each of them once. The clock may go back between calls: a token that a save
dropped stays away until it is saved again, and one that has expired is held
until the next save.
-/

namespace IdentityProvider.TokenStore

-- ----- Calls

/-- Only saving reads the clock. -/
inductive Call where
  | save (now : Time) (compact : Bytes)
  | delete (compact : Bytes)
  | has (compact : Bytes)

def step (s : TokenStore) : Call → TokenStore
  | .save now compact => s.save now compact
  | .delete compact => s.delete compact
  | .has _ => s

def run (calls : List Call) : TokenStore := calls.foldl step empty

theorem run_append_singleton (calls : List Call) (c : Call) :
    run (calls ++ [c]) = (run calls).step c :=
  List.foldl_concat step empty c calls

-- ----- The log of calls

/-- The time is past what the token itself states as its end. One that cannot be
read, or states none, has none. -/
def PastExpiry (now : Time) (compact : Bytes) : Prop :=
  ∃ t exp, Token.parseUnverified compact = .ok t ∧ t.claims.exp = some exp ∧
    exp.toInt < now.seconds

/-- A stored token is still there after the call. -/
def Call.Spares (compact : Bytes) : Call → Prop
  | .save now _ => ¬ PastExpiry now compact
  | .delete other => other ≠ compact
  | .has _ => True

/-- The token was saved, and every call since then spares it. -/
def Kept (calls : List Call) (compact : Bytes) : Prop :=
  ∃ before now after, calls = before ++ .save now compact :: after ∧
    ∀ c ∈ after, c.Spares compact

theorem kept_iff {calls : List Call} {compact : Bytes} :
    Kept calls compact ↔ ∃ now, StandsLast (Call.Spares compact) calls (.save now compact) :=
  exists_comm

theorem not_kept_nil (compact : Bytes) : ¬ Kept [] compact := by
  simp [kept_iff, not_standsLast_nil]

/-- The last call saves the token, or spares one that was kept up to it. -/
theorem kept_append_singleton_iff {calls : List Call} {c : Call} {compact : Bytes} :
    Kept (calls ++ [c]) compact ↔
      (∃ now, c = .save now compact) ∨ Kept calls compact ∧ c.Spares compact := by
  simp only [kept_iff, standsLast_append_singleton_iff, exists_or, exists_and_right]

-- ----- What every store of a run is like

/-- Each entry has the expiry that its token states, and no token is there twice. -/
structure Tidy (s : TokenStore) : Prop where
  exp : ∀ e ∈ s.entries, e.exp = expiry? e.compact
  nodup : (s.entries.map StoredToken.compact).Nodup

theorem tidy_empty : empty.Tidy := ⟨by simp [empty], by simp [empty]⟩

theorem tidy_filter {s : TokenStore} (h : s.Tidy) (p : StoredToken → Bool) :
    Tidy ⟨s.entries.filter p⟩ where
  exp e he := h.exp e (List.mem_of_mem_filter he)
  nodup := h.nodup.sublist (List.filter_sublist.map _)

theorem tidy_save {s : TokenStore} (h : s.Tidy) (now : Time) (compact : Bytes) :
    (s.save now compact).Tidy where
  exp e he := by
    rcases List.mem_cons.mp he with rfl | he
    · rfl
    · exact (tidy_filter (tidy_filter h _) _).exp e he
  nodup := by
    have hrest : ((s.prune now).delete compact).Tidy := tidy_filter (tidy_filter h _) _
    refine List.nodup_cons.mpr ⟨?_, hrest.nodup⟩
    simp [delete]

theorem tidy_step {s : TokenStore} (h : s.Tidy) (c : Call) : (s.step c).Tidy := by
  cases c with
  | save now compact => exact tidy_save h now compact
  | delete compact => exact tidy_filter h _
  | has compact => exact h

theorem tidy_run (calls : List Call) : (run calls).Tidy := by
  induction calls using List.reverseRecOn with
  | nil => exact tidy_empty
  | append_singleton calls c ih =>
    rw [run_append_singleton]
    exact tidy_step ih c

-- ----- Holding

theorem has_iff {s : TokenStore} {compact : Bytes} :
    s.has compact = true ↔ compact ∈ s.entries.map StoredToken.compact := by
  simp [has]

theorem isExpired_iff {e : StoredToken} (h : e.exp = expiry? e.compact) {now : Time} :
    e.isExpired now = true ↔ PastExpiry now e.compact := by
  unfold StoredToken.isExpired PastExpiry
  rw [h, expiry?]
  cases Token.parseUnverified e.compact with
  | error fault => simp
  | ok t =>
    simp only [Except.ok.injEq, exists_and_left, exists_eq_left']
    cases t.claims.exp <;> simp

theorem Tidy.has_prune_iff {s : TokenStore} (h : s.Tidy) {now : Time} {compact : Bytes} :
    (s.prune now).has compact = true ↔ s.has compact = true ∧ ¬ PastExpiry now compact := by
  simp only [has_iff, prune, List.mem_map, List.mem_filter, Bool.not_eq_true']
  constructor
  · rintro ⟨e, ⟨he, hexpired⟩, rfl⟩
    rw [← isExpired_iff (h.exp e he)]
    exact ⟨⟨e, he, rfl⟩, by simp [hexpired]⟩
  · rintro ⟨⟨e, he, rfl⟩, hpast⟩
    rw [← isExpired_iff (h.exp e he)] at hpast
    exact ⟨e, ⟨he, by simpa using hpast⟩, rfl⟩

theorem has_save_iff {s : TokenStore} {now : Time} {compact other : Bytes} :
    (s.save now other).has compact = true ↔
      compact = other ∨ (s.prune now).has compact = true := by
  have hsaved : (s.save now other).has compact = true ↔
      compact = other ∨ ((s.prune now).delete other).has compact = true := by
    simp [has_iff, save]
  rw [hsaved, has_delete]
  by_cases hsame : compact = other <;> simp [hsame]

/-- A step keeps and adds just what the log says. -/
theorem Tidy.has_step_iff {s : TokenStore} (h : s.Tidy) {c : Call} {compact : Bytes} :
    (s.step c).has compact = true ↔
      (∃ now, c = .save now compact) ∨ s.has compact = true ∧ c.Spares compact := by
  cases c with
  | save now other =>
    have hsaved : (∃ later, Call.save now other = .save later compact) ↔ compact = other := by
      constructor
      · rintro ⟨later, ⟨⟩⟩
        rfl
      · rintro rfl
        exact ⟨now, rfl⟩
    rw [step, has_save_iff, h.has_prune_iff, hsaved, Call.Spares]
  | delete other =>
    rw [step, has_delete, Bool.and_eq_true, decide_eq_true_iff, ne_comm, Call.Spares]
    simp
  | has other => simp [step, Call.Spares]

theorem has_run_iff {calls : List Call} {compact : Bytes} :
    (run calls).has compact = true ↔ Kept calls compact := by
  induction calls using List.reverseRecOn with
  | nil => simp [run, has, empty, not_kept_nil]
  | append_singleton calls c ih =>
    rw [run_append_singleton, (tidy_run calls).has_step_iff, ih, kept_append_singleton_iff]

-- ----- Counting

theorem setOf_has (s : TokenStore) :
    {compact | s.has compact = true} = (s.entries.map StoredToken.compact).toFinset := by
  ext compact
  simp [has_iff]

theorem Tidy.size_eq_ncard {s : TokenStore} (h : s.Tidy) :
    s.size = {compact | s.has compact = true}.ncard := by
  rw [setOf_has, Set.ncard_coe_finset, List.toFinset_card_of_nodup h.nodup, List.length_map, size]

/-- After any calls a store holds the tokens that are kept by their log, and no
others, and its size is their number. -/
theorem has_and_size_run (calls : List Call) :
    (∀ compact, (run calls).has compact = true ↔ Kept calls compact) ∧
      {compact | Kept calls compact}.Finite ∧
      (run calls).size = {compact | Kept calls compact}.ncard := by
  have hkept : {compact | (run calls).has compact = true} = {compact | Kept calls compact} := by
    ext compact
    exact has_run_iff
  refine ⟨fun compact => has_run_iff, ?_, ?_⟩
  · rw [← hkept, setOf_has]
    exact Finset.finite_toSet _
  · rw [← hkept]
    exact (tidy_run calls).size_eq_ncard

end IdentityProvider.TokenStore
