import IdentityProvider.Text.Extending
import IdentityProvider.Text.Hidden

/-!
# Quoted text

Text from outside is shown between double quotes. Quotes, backslashes and the
common controls are escaped with a backslash; characters that do not show, or
that would join their neighbour, are written by their code point.
-/

namespace IdentityProvider.Text

/-- Hexadecimal digits without leading zeros. -/
def hexDigits (n : Nat) : List Char := Nat.toDigits 16 n

def codePoint (c : Char) : List Char :=
  ['\\', 'u', '\x7b'] ++ hexDigits c.toNat ++ ['\x7d']

def quotedChar (c : Char) : List Char :=
  if c = '\x00' then ['\\', '0']
  else if c = '\t' then ['\\', 't']
  else if c = '\r' then ['\\', 'r']
  else if c = '\n' then ['\\', 'n']
  else if c = '"' ∨ c = '\\' then ['\\', c]
  else if isExtending c || isHidden c then codePoint c
  else [c]

def quoted (s : String) : String := String.ofList ('"' :: (s.toList.flatMap quotedChar ++ ['"']))

end IdentityProvider.Text
