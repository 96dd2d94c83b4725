import IdentityProvider.Algorithm
import IdentityProvider.Json.Format
import IdentityProvider.Token.Kind
import IdentityProvider.Token.Scopes

/-!
# What a token says

The header names the algorithm and the key; the claims say for whom, by whom,
for what and how long the token is. Empty members are not written, and missing
ones are empty; only the algorithm and the kind must be there.
-/

namespace IdentityProvider

open Json (Format Members Shape unlessEmpty)

def jwtType : String := "JWT"

/-- The audience of tokens for no particular app. -/
def providerAudience : String := "identifo"

/-- The payload entry for a user's name. -/
def payloadName : String := "name"

-- ----- Headers

structure Header where
  typ : String
  /-- A name, so that one that is not allowed can be told. -/
  alg : String
  kid : String
  deriving Repr, DecidableEq

namespace Header

def new (choice : AlgorithmChoice) (kid : String) : Header := ⟨jwtType, choice.name, kid⟩

def algorithm? (h : Header) : Option Algorithm := Algorithm.ofName? h.alg

def format : Format Header where
  shape := .record "Header" (.absentable "typ" .string <| .required "alg" .string <|
    .absentable "kid" .string .nil)
  view h := (some h.typ, h.alg, unlessEmpty h.kid, ())
  build
    | (typ, alg, kid, ()) => ⟨typ.getD "", alg, kid.getD ""⟩

theorem build_view (h : Header) : format.build (format.view h) = h := by
  simp [format, Json.unlessEmpty_getD]

theorem algorithm?_new (a : Algorithm) (kid : String) : (new (.only a) kid).algorithm? = some a :=
  Algorithm.ofName?_name a

end Header

-- ----- Claims

def TokenKind.shape : Shape := .choice TokenKind.names

def TokenKind.view : TokenKind → Fin 5
  | access => 0
  | refresh => 1
  | invite => 2
  | reset => 3
  | webCookie => 4

def TokenKind.build : Fin 5 → TokenKind
  | 0 => access
  | 1 => refresh
  | 2 => invite
  | 3 => reset
  | 4 => webCookie

theorem TokenKind.build_view (k : TokenKind) : build k.view = k := by
  cases k <;> rfl

/-- Times are seconds since 1970; `scopes` are words in one text. -/
structure Claims where
  sub : String
  iss : String
  aud : String
  iat : Option Int64
  exp : Option Int64
  scopes : String
  payload : Table
  kind : TokenKind
  kid : String

namespace Claims

def new (kind : TokenKind) : Claims := ⟨"", "", "", none, none, "", .empty, kind, ""⟩

def scopeList (c : Claims) : List String := IdentityProvider.scopeList c.scopes

def hasScope (c : Claims) (scope : String) : Bool := IdentityProvider.hasScope c.scopes scope

def members : Members :=
  .absentable "sub" .string <| .absentable "iss" .string <| .absentable "aud" .string <|
  .absentable "iat" (.optional (.integer .int64)) <|
  .absentable "exp" (.optional (.integer .int64)) <|
  .absentable "scopes" .string <| .absentable "payload" .table <|
  .required "type" TokenKind.shape <| .absentable "kid" .string .nil

def view (c : Claims) : members.Value :=
  (unlessEmpty c.sub, unlessEmpty c.iss, unlessEmpty c.aud, c.iat.map some, c.exp.map some,
    unlessEmpty c.scopes, if c.payload.isEmpty then none else some c.payload, c.kind.view,
    unlessEmpty c.kid, ())

def build : members.Value → Claims
  | (sub, iss, aud, iat, exp, scopes, payload, kind, kid, ()) =>
    { sub := sub.getD ""
      iss := iss.getD ""
      aud := aud.getD ""
      iat := iat.join
      exp := exp.join
      scopes := scopes.getD ""
      payload := payload.getD .empty
      kind := .build kind
      kid := kid.getD "" }

def format : Format Claims := ⟨.record "Claims" members, view, build⟩

theorem build_view (c : Claims) : build c.view = c := by
  obtain ⟨sub, iss, aud, iat, exp, scopes, payload, kind, kid⟩ := c
  have empty : (if payload.isEmpty then none else some payload).getD .empty = payload := by
    split
    · rename_i h
      exact (Table.eq_empty_of_isEmpty h).symm
    · rfl
  have same (t : Option Int64) : (t.map some).join = t := by
    cases t <;> rfl
  show Claims.mk ((unlessEmpty sub).getD "") ((unlessEmpty iss).getD "")
    ((unlessEmpty aud).getD "") (iat.map some).join (exp.map some).join
    ((unlessEmpty scopes).getD "") ((if payload.isEmpty then none else some payload).getD .empty)
    (.build kind.view) ((unlessEmpty kid).getD "") = _
  simp only [Json.unlessEmpty_getD, same, empty, TokenKind.build_view]

end Claims

end IdentityProvider
