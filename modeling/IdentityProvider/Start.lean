/-!
# How a list begins

Formats are told by their beginnings: a hash by its prefix, a document by its
first line, a token by its first letters.
-/

namespace IdentityProvider

/-- What follows a given beginning, if the list begins so. -/
def after? [DecidableEq α] : (start : List α) → List α → Option (List α)
  | [], s => some s
  | _ :: _, [] => none
  | a :: start, b :: s => if a = b then after? start s else none

theorem after?_eq_some_iff [DecidableEq α] {start s rest : List α} :
    after? start s = some rest ↔ s = start ++ rest := by
  induction start generalizing s with
  | nil => simp [after?]
  | cons a start ih =>
    cases s with
    | nil => simp [after?]
    | cons b s =>
      by_cases h : a = b
      · simp [after?, h, ih]
      · simp [after?, h, Ne.symm h]

end IdentityProvider
