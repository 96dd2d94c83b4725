/-!
# Signature algorithms

A key signs with one of two algorithms: ECDSA on P-256 or RSA with PKCS #1 v1.5
padding, both over SHA-256. A request may leave the choice to the key.
-/

namespace IdentityProvider

inductive Algorithm where
  | es256
  | rs256
  deriving Repr, DecidableEq

/-- The order in which a key of unknown family is tried. -/
def Algorithm.all : List Algorithm := [.es256, .rs256]

def Algorithm.name : Algorithm → String
  | .es256 => "ES256"
  | .rs256 => "RS256"

/-- The algorithm a token's header names, spelled exactly. -/
def Algorithm.ofName? (s : String) : Option Algorithm :=
  Algorithm.all.find? fun a => a.name = s

theorem Algorithm.ofName?_name (a : Algorithm) : Algorithm.ofName? a.name = some a := by
  cases a <;> decide

inductive AlgorithmChoice where
  | auto
  | only (a : Algorithm)
  deriving Repr, DecidableEq

def AlgorithmChoice.name : AlgorithmChoice → String
  | .auto => "auto"
  | .only a => a.name

/-- The names in the order in which they are listed. -/
def AlgorithmChoice.names : List String := ["ES256", "RS256", "auto"]

/-- Compares with a lower-case name; only ASCII letters have a case here, which
is all of it for names without the letter k. -/
def lowerCased (s : String) : List Char := s.toList.map Char.toLower

/-- A name in any case; no name is the automatic choice. -/
def AlgorithmChoice.ofName? (s : String) : Option AlgorithmChoice :=
  if lowerCased s = "es256".toList then some (.only .es256)
  else if lowerCased s = "rs256".toList then some (.only .rs256)
  else if lowerCased s = "auto".toList ∨ s = "" then some .auto
  else none

end IdentityProvider
