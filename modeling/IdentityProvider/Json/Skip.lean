import IdentityProvider.Json.Text

/-!
# Passing over a value

A member that no record asks for is passed over, however deeply it nests: the
open brackets are kept in a list. Its syntax is checked, its strings and numbers
only for their shape.
-/

namespace IdentityProvider.Json

inductive Bracket where
  | list
  | object
  deriving Repr, DecidableEq

/-- What must come next. -/
inductive Due where
  | value
  /-- Right after an opening bracket: a closing one, or the first entry. -/
  | first
  /-- After an entry: a comma or the closing bracket. -/
  | next
  | key
  | colon
  | done
  deriving Repr, DecidableEq

structure Skip where
  /-- The brackets still open, innermost first. -/
  brackets : List Bracket
  due : Due
  deriving Repr, DecidableEq

def Bracket.eof : Bracket → Fault
  | .list => .eofInList
  | .object => .eofInObject

def Bracket.expected : Bracket → Fault
  | .list => .expectedListCommaOrEnd
  | .object => .expectedObjectCommaOrEnd

def Bracket.closedBy : Bracket → Token → Bool
  | .list, .rightBracket => true
  | .object, .rightBrace => true
  | _, _ => false

/-- After a whole value. -/
def Skip.settled (brackets : List Bracket) : Skip :=
  match brackets with
  | [] => ⟨[], .done⟩
  | bs => ⟨bs, .next⟩

/-- A token where a value is due. -/
def Skip.value (brackets : List Bracket) : Token → Except Fault Skip
  | .null | .bool _ | .number _ => .ok (.settled brackets)
  | .string s => s.passOver.map fun _ => .settled brackets
  | .leftBracket => .ok ⟨.list :: brackets, .first⟩
  | .leftBrace => .ok ⟨.object :: brackets, .first⟩
  | .brokenNumber _ => .error .invalidNumber
  | .brokenWord atEnd => .error (if atEnd then .eofInValue else .expectedWord)
  | .rightBracket | .rightBrace | .colon | .comma | .stray _ => .error .expectedValue

/-- A token where a member's name is due. -/
def Skip.key (brackets : List Bracket) : Token → Except Fault Skip
  | .string s => s.passOver.map fun _ => ⟨brackets, .colon⟩
  | _ => .error .keyMustBeString

/-- A token where an entry of the innermost bracket is due. -/
def Skip.entry (b : Bracket) (outer : List Bracket) (t : Token) : Except Fault Skip :=
  match b with
  | .list => Skip.value (b :: outer) t
  | .object => Skip.key (b :: outer) t

def Skip.step (s : Skip) (t : Token) : Except Fault Skip :=
  match s.due, s.brackets with
  | .done, _ => .ok s
  | .value, bs => Skip.value bs t
  | .key, bs => Skip.key bs t
  | .colon, bs => if t = .colon then .ok ⟨bs, .value⟩ else .error .expectedColon
  | .first, b :: outer =>
    if b.closedBy t then .ok (.settled outer) else Skip.entry b outer t
  | .next, b :: outer =>
    if b.closedBy t then .ok (.settled outer)
    else if t = .comma then
      .ok ⟨b :: outer, match b with | .list => .value | .object => .key⟩
    else .error b.expected
  | .first, [] | .next, [] => .ok ⟨[], .done⟩

/-- The fault of a text that ends where something is due. -/
def Skip.atEnd (s : Skip) : Fault :=
  match s.due, s.brackets with
  | .first, b :: _ | .next, b :: _ => b.eof
  | .key, _ | .colon, _ => .eofInObject
  | _, _ => .eofInValue

/-- Passes over tokens until nothing is due; the rest is what follows the value. -/
def Skip.run (s : Skip) : List Token → Except Fault (List Token)
  | [] => if s.due = .done then .ok [] else .error s.atEnd
  | t :: rest =>
    if s.due = .done then .ok (t :: rest)
    else match s.step t with
      | .ok s' => Skip.run s' rest
      | .error f => .error f

def skipValue (ts : List Token) : Except Fault (List Token) := Skip.run ⟨[], .value⟩ ts

end IdentityProvider.Json
