import IdentityProvider.Error.Kind

/-!
# Errors of setting up the log
-/

namespace IdentityProvider

inductive LogError where
  | invalidFilter (reason : String)
  | alreadyInitialized (reason : String)
  deriving Repr, DecidableEq

def LogError.message : LogError → String
  | .invalidFilter reason => "Invalid log filter: " ++ reason
  | .alreadyInitialized reason => "Global subscriber already installed: " ++ reason

instance : Classified LogError :=
  ⟨fun _ => .configuration, fun _ => "CONFIG_5004", LogError.message, fun _ => none⟩

end IdentityProvider
