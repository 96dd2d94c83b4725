import IdentityProvider.Error.Kind

/-!
# Log events

What the server logs is data: a level, a message and named fields. An operation
that logs returns its events, in order, with its result.
-/

namespace IdentityProvider

inductive Level where
  | error
  | warn
  | info
  | debug
  deriving Repr, DecidableEq

def Level.name : Level → String
  | .error => "ERROR"
  | .warn => "WARN"
  | .info => "INFO"
  | .debug => "DEBUG"

inductive FieldValue where
  | text (s : String)
  | number (n : Int)
  deriving Repr, DecidableEq

structure Event where
  level : Level
  message : String
  fields : List (String × FieldValue)
  deriving Repr, DecidableEq

/-- A result and what was logged on the way to it. -/
structure Logged (α : Type) where
  result : α
  events : List Event

def Logged.silent (a : α) : Logged α := ⟨a, []⟩

-- ----- Reporting errors

def reportLevel : ErrorKind → Level
  | .malformed => .info
  | .validation => .warn
  | .credentials | .precondition => .info
  | .configuration | .storage | .internal => .error

def reportMessage : ErrorKind → String
  | .malformed => "Rejected undecodable credential"
  | .validation => "Credential failed validation"
  | .credentials | .precondition => "Request rejected"
  | .configuration | .storage | .internal => "Identity engine error"

/-- The event for an error: its level tells probing with garbage from stale credentials. -/
def report [Classified ε] (context : String) (e : ε) : Event :=
  let kind := Classified.kind e
  { level := reportLevel kind
    message := reportMessage kind
    fields := [("context", .text context), ("error_kind", .text kind.name),
      ("error_code", .text (Classified.code e)), ("error", .text (Classified.message e))] }

end IdentityProvider
