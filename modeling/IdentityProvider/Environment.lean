import IdentityProvider.Decimal

/-!
# The environment

Settings may come from named variables. A variable whose bytes are no text
counts as unset.
-/

namespace IdentityProvider

abbrev Environment := List (String × Bytes)

namespace Environment

def text? (env : Environment) (name : String) : Option String :=
  (env.find? fun v => v.1 = name).bind fun v => v.2.toString?

/-- The value of a variable, read by `read?`; an unset one has none, and one
that cannot be read is an error made of its text. -/
def read (env : Environment) (name : String) (read? : Bytes → Option α) (error : String → ε) :
    Except ε (Option α) :=
  match env.text? name with
  | none => .ok none
  | some value =>
    match read? (Bytes.ofString value) with
    | some a => .ok (some a)
    | none => .error (error value)

end Environment

end IdentityProvider
