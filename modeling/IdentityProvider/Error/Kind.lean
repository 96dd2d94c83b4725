/-!
# Kinds of errors

Every error has a kind, which decides what happens to it, a code for the
server's own log, and a message. The outside sees at most a public error, which
never tells which check failed: undecodable and invalid credentials look the
same.
-/

namespace IdentityProvider

inductive ErrorKind where
  | configuration
  | precondition
  | validation
  | malformed
  | credentials
  | storage
  | internal
  deriving Repr, DecidableEq

def ErrorKind.name : ErrorKind → String
  | .configuration => "configuration"
  | .precondition => "precondition"
  | .validation => "validation"
  | .malformed => "malformed"
  | .credentials => "credentials"
  | .storage => "storage"
  | .internal => "internal"

def ErrorKind.isAuthenticationFailure (k : ErrorKind) : Bool := k = .validation || k = .malformed

def ErrorKind.isFatal (k : ErrorKind) : Bool := k = .configuration

class Classified (ε : Type) where
  kind : ε → ErrorKind
  code : ε → String
  message : ε → String
  /-- The message of the error that lies behind this one, if there is one. -/
  source? : ε → Option String

-- ----- What the outside sees

structure PublicError where
  code : String
  message : String
  deriving Repr, DecidableEq

namespace PublicError

def authenticationFailed : PublicError := ⟨"AUTH_2001", "authentication failed"⟩
def incorrectCredentials : PublicError := ⟨"AUTH_2002", "incorrect credentials"⟩
def internal : PublicError := ⟨"SYSTEM_9001", "internal error"⟩

def ofKind (kind : ErrorKind) (code : String) : PublicError :=
  match kind with
  | .validation | .malformed => authenticationFailed
  | .credentials => incorrectCredentials
  | .precondition => ⟨code, "request rejected"⟩
  | .configuration | .storage | .internal => internal

def ofError [Classified ε] (e : ε) : PublicError := ofKind (Classified.kind e) (Classified.code e)

def text (e : PublicError) : String := e.code ++ ": " ++ e.message

end PublicError

end IdentityProvider
