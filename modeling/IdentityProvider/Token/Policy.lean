import IdentityProvider.Clock
import IdentityProvider.Token

/-!
# Validating tokens

A policy says what a token must look like. The checks run in a fixed order, and
the first that fails decides the error.
-/

namespace IdentityProvider

/-- Empty lists, an empty user and missing members demand nothing. -/
structure Policy where
  audiences : List String := []
  issuers : List String := []
  userId : Option String := none
  kind : Option TokenKind := none
  deriving Repr, DecidableEq

namespace Policy

/-- A value that has to be in a list, unless the list is empty. -/
def admits (allowed : List String) (s : String) : Bool := allowed.isEmpty || allowed.contains s

def admitsUser (p : Policy) (sub : String) : Bool :=
  match p.userId with
  | none => true
  | some id => id = "" || sub = id

def admitsKind (p : Policy) (kind : TokenKind) : Bool :=
  match p.kind with
  | none => true
  | some k => kind = k

/-- The checks in their order, each with the error for failing it. -/
def checks (p : Policy) (now : Time) (t : Token) : List (Bool × IdentityError) :=
  [(t.isTrusted, .tokenInvalid .neverVerified),
    (t.header.algorithm?.isSome, .tokenInvalid (.algorithmNotAllowed t.header.alg)),
    (t.claims.exp.any fun exp => now.seconds ≤ exp.toInt, .noExpiration),
    (t.claims.iat.any fun iat => iat.toInt ≤ now.seconds, .noIssuedAt),
    (admits p.audiences t.claims.aud, .invalidAudience),
    (admits p.issuers t.claims.iss, .invalidIssuer),
    (p.admitsUser t.claims.sub, .invalidSubject),
    (p.admitsKind t.claims.kind, .tokenTypeMismatch)]

def firstFailure : List (Bool × ε) → Except ε Unit
  | [] => .ok ()
  | (passed, e) :: rest => if passed then firstFailure rest else .error e

def validate (p : Policy) (now : Time) (t : Token) : Except IdentityError Unit :=
  firstFailure (p.checks now t)

end Policy

end IdentityProvider
