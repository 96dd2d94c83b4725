/-!
# Chains of steps that may fail

A chain gives a result when each of its steps does, and otherwise stops with
the error of the first step that has one. A condition in a chain refuses what is
to come or lets it go on.
-/

namespace IdentityProvider

theorem bind_eq_ok_iff {x : Except ε α} {next : α → Except ε β} {b : β} :
    (x >>= next) = .ok b ↔ ∃ a, x = .ok a ∧ next a = .ok b := by
  rcases x with e | a <;> simp [bind, Except.bind]

theorem bind_eq_error_iff {x : Except ε α} {next : α → Except ε β} {e : ε} :
    (x >>= next) = .error e ↔ x = .error e ∨ ∃ a, x = .ok a ∧ next a = .error e := by
  rcases x with e | a <;> simp [bind, Except.bind]

theorem bind_of_ok {x : Except ε α} (next : α → Except ε β) {a : α} (h : x = .ok a) :
    (x >>= next) = next a := by
  rw [h]
  rfl

theorem mapError_eq_ok_iff {x : Except ε α} {f : ε → δ} {a : α} :
    x.mapError f = .ok a ↔ x = .ok a := by
  rcases x with e | b
  · exact ⟨nofun, nofun⟩
  · exact ⟨fun h => by cases h; rfl, fun h => by cases h; rfl⟩

section
variable {refused : Prop} [Decidable refused] {reason e : ε} {next : α → Except ε β}
  {x : Except ε β} {b : β}

theorem refuse_eq_ok_iff :
    (if refused then .error reason >>= next else x) = .ok b ↔ ¬ refused ∧ x = .ok b := by
  by_cases h : refused <;> simp [h, bind, Except.bind]

theorem refuse_eq_error_iff : (if refused then .error reason >>= next else x) = .error e ↔
    refused ∧ e = reason ∨ ¬ refused ∧ x = .error e := by
  by_cases h : refused <;> simp [h, bind, Except.bind, eq_comm]

end

end IdentityProvider
