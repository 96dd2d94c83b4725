import IdentityProvider.Json.Read
import IdentityProvider.Json.Write

/-!
# Formats

A format spells the values of a type as the values of a shape: `view` takes a
value apart into its members, and `build` puts it together, filling in what is
absent.
-/

namespace IdentityProvider.Json

structure Format (α : Type) where
  shape : Shape
  view : α → shape.Value
  build : shape.Value → α

namespace Format

def encode (f : Format α) (a : α) : Bytes := f.shape.encode (f.view a)

def decode (f : Format α) (text : Bytes) : Except ReadError α :=
  (f.shape.decode text).map f.build

end Format

/-- An absent value stands for an empty one. -/
def unlessEmpty (s : String) : Option String := if s = "" then none else some s

theorem unlessEmpty_getD (s : String) : (unlessEmpty s).getD "" = s := by
  by_cases h : s = "" <;> simp [unlessEmpty, h]

end IdentityProvider.Json
