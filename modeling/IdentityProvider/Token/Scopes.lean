import IdentityProvider.Text.Blank

/-!
# Scopes

A token's scopes are words in one text.
-/

namespace IdentityProvider

/-- The scope that allows a refresh token. -/
def offlineScope : String := "offline"

def scopeList (scopes : String) : List String := (Text.words scopes.toList).map String.ofList

def hasScope (scopes scope : String) : Bool := (scopeList scopes).any (· = scope)

def spaceSeparated : List String → String
  | [] => ""
  | [s] => s
  | s :: rest => s ++ " " ++ spaceSeparated rest

/-- Empty scopes are left out. -/
def joinScopes (scopes : List String) : String := spaceSeparated (scopes.filter (· ≠ ""))

theorem hasScope_iff (scopes scope : String) :
    hasScope scopes scope = true ↔ scope ∈ scopeList scopes := by
  simp [hasScope]

end IdentityProvider
