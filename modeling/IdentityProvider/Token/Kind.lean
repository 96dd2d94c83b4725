/-!
# Kinds of tokens

The provider issues tokens of five kinds; each is valid for its own purpose only.
-/

namespace IdentityProvider

inductive TokenKind where
  | access
  | refresh
  | invite
  | reset
  | webCookie
  deriving Repr, DecidableEq

namespace TokenKind

def all : List TokenKind := [access, refresh, invite, reset, webCookie]

def name : TokenKind → String
  | access => "access"
  | refresh => "refresh"
  | invite => "invite"
  | reset => "reset"
  | webCookie => "web-cookie"

def names : List String := ["access", "refresh", "invite", "reset", "web-cookie"]

def ofName? (s : String) : Option TokenKind := all.find? fun k => k.name = s

theorem ofName?_name (k : TokenKind) : ofName? k.name = some k := by
  cases k <;> decide

end TokenKind

end IdentityProvider
