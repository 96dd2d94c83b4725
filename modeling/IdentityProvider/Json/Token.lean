import IdentityProvider.Bytes

/-!
# The tokens of a JSON text

A text is cut into tokens from left to right by a machine that reads one byte
at a time. Broken literals, numbers and strings become tokens too: which fault
they are, and whether they are one at all, depends on who reads them. Nothing
follows a broken token, because no reader gets past it.
-/

namespace IdentityProvider.Json

/-- One unit of a string's source. -/
inductive Piece where
  | byte (b : UInt8)
  /-- The letter of a one-letter escape. -/
  | letter (b : UInt8)
  /-- The value of four hexadecimal digits. -/
  | unit (n : Nat)
  deriving Repr, DecidableEq

/-- How a string's source ends. -/
inductive StringEnd where
  | quote
  | missing
  | control
  | badLetter
  | badDigits
  deriving Repr, DecidableEq

structure StringSource where
  pieces : List Piece
  stop : StringEnd
  deriving Repr, DecidableEq

structure Exponent where
  negative : Bool
  digits : List Nat
  deriving Repr, DecidableEq

/-- The spelling of a number, as digits. -/
structure Numeral where
  negative : Bool
  whole : List Nat
  fraction : List Nat := []
  exponent : Option Exponent := none
  deriving Repr, DecidableEq

inductive Token where
  | leftBrace
  | rightBrace
  | leftBracket
  | rightBracket
  | colon
  | comma
  | null
  | bool (b : Bool)
  | number (n : Numeral)
  | string (s : StringSource)
  /-- A number with a digit missing or a leading zero; `atEnd` when the text ends there. -/
  | brokenNumber (atEnd : Bool)
  /-- A literal that is not spelled to its end. -/
  | brokenWord (atEnd : Bool)
  /-- A byte that begins nothing. -/
  | stray (b : UInt8)
  deriving Repr, DecidableEq

-- ----- Parts of the machine

/-- What a number may go on with. -/
inductive NumberPart where
  /-- After the minus sign. -/
  | sign
  /-- After a leading zero. -/
  | zero
  | whole
  | point
  | fraction
  | mark
  | markSign
  | exponent
  deriving Repr, DecidableEq

/-- Digits are kept in reading order; the last one read is last. -/
structure NumberState where
  part : NumberPart
  numeral : Numeral
  deriving Repr

inductive State where
  | between
  /-- In a literal: the byte due, the bytes due after it, and the token they spell. -/
  | word (due : UInt8) (later : Bytes) (whole : Token)
  | number (s : NumberState)
  /-- In a string; the pieces read so far, last first. -/
  | text (pieces : List Piece)
  | escape (pieces : List Piece)
  /-- In a four-digit escape. -/
  | digits (due : Nat) (value : Nat) (sound : Bool) (pieces : List Piece)
  deriving Repr

def isBlank (b : UInt8) : Bool := b = 32 || b = 10 || b = 9 || b = 13

def digit? (b : UInt8) : Option Nat := if 48 ≤ b ∧ b ≤ 57 then some (b.toNat - 48) else none

/-- What a byte between tokens does: the token it is, if it is one, and the next state. -/
def start (b : UInt8) : Option Token × State :=
  if isBlank b then (none, .between)
  else if b = 123 then (some .leftBrace, .between)
  else if b = 125 then (some .rightBrace, .between)
  else if b = 91 then (some .leftBracket, .between)
  else if b = 93 then (some .rightBracket, .between)
  else if b = 58 then (some .colon, .between)
  else if b = 44 then (some .comma, .between)
  else if b = 34 then (none, .text [])
  else if b = 110 then (none, .word 117 [108, 108] .null)
  else if b = 116 then (none, .word 114 [117, 101] (.bool true))
  else if b = 102 then (none, .word 97 [108, 115, 101] (.bool false))
  else if b = 45 then (none, .number ⟨.sign, ⟨true, [], [], none⟩⟩)
  else match digit? b with
    | some 0 => (none, .number ⟨.zero, ⟨false, [0], [], none⟩⟩)
    | some d => (none, .number ⟨.whole, ⟨false, [d], [], none⟩⟩)
    | none => (some (.stray b), .between)

/-- The outcome of a byte met inside a number. -/
inductive NumberStep where
  | more (s : NumberState)
  /-- The byte is not part of the number, which is complete. -/
  | done
  | broken
  deriving Repr

def Numeral.addWhole (n : Numeral) (d : Nat) : Numeral := { n with whole := n.whole ++ [d] }
def Numeral.addFraction (n : Numeral) (d : Nat) : Numeral :=
  { n with fraction := n.fraction ++ [d] }
def Numeral.setSign (n : Numeral) (negative : Bool) : Numeral :=
  { n with exponent := some ⟨negative, []⟩ }
def Numeral.addExponent (n : Numeral) (d : Nat) : Numeral :=
  match n.exponent with
  | some e => { n with exponent := some { e with digits := e.digits ++ [d] } }
  | none => { n with exponent := some ⟨false, [d]⟩ }

/-- After a whole part: a point, an exponent mark, or the end of the number. -/
def NumberState.afterWhole (s : NumberState) (b : UInt8) : NumberStep :=
  if b = 46 then .more ⟨.point, s.numeral⟩
  else if b = 101 ∨ b = 69 then .more ⟨.mark, s.numeral⟩
  else .done

def NumberState.step (s : NumberState) (b : UInt8) : NumberStep :=
  match s.part, digit? b with
  | .sign, some 0 => .more ⟨.zero, s.numeral.addWhole 0⟩
  | .sign, some d => .more ⟨.whole, s.numeral.addWhole d⟩
  | .sign, none => .broken
  | .zero, some _ => .broken
  | .zero, none => s.afterWhole b
  | .whole, some d => .more ⟨.whole, s.numeral.addWhole d⟩
  | .whole, none => s.afterWhole b
  | .point, some d => .more ⟨.fraction, s.numeral.addFraction d⟩
  | .point, none => .broken
  | .fraction, some d => .more ⟨.fraction, s.numeral.addFraction d⟩
  | .fraction, none => if b = 101 ∨ b = 69 then .more ⟨.mark, s.numeral⟩ else .done
  | .mark, some d => .more ⟨.exponent, s.numeral.addExponent d⟩
  | .mark, none =>
    if b = 43 then .more ⟨.markSign, s.numeral.setSign false⟩
    else if b = 45 then .more ⟨.markSign, s.numeral.setSign true⟩
    else .broken
  | .markSign, some d => .more ⟨.exponent, s.numeral.addExponent d⟩
  | .markSign, none => .broken
  | .exponent, some d => .more ⟨.exponent, s.numeral.addExponent d⟩
  | .exponent, none => .done

/-- The token of a number at the end of the text. -/
def NumberState.finish (s : NumberState) : Token :=
  match s.part with
  | .zero | .whole | .fraction | .exponent => .number s.numeral
  | .sign | .point | .mark | .markSign => .brokenNumber true

def isEscapeLetter (b : UInt8) : Bool :=
  b = 34 || b = 92 || b = 47 || b = 98 || b = 102 || b = 110 || b = 114 || b = 116

def hexDigit? (b : UInt8) : Option Nat := Bytes.hexValue? (Char.ofNat b.toNat)

def closeString (pieces : List Piece) (stop : StringEnd) : Token :=
  .string ⟨pieces.reverse, stop⟩

-- ----- The machine

/-- The tokens of the rest of a text. An escape's four digits are judged together,
once all four are there. -/
def tokensFrom : State → Bytes → List Token
  | .between, [] => []
  | .word .., [] => [.brokenWord true]
  | .number s, [] => [s.finish]
  | .text ps, [] => [closeString ps .missing]
  | .escape ps, [] => [closeString ps .missing]
  | .digits _ _ _ ps, [] => [closeString ps .missing]
  | .between, b :: rest =>
    match start b with
    | (some t, s) => t :: tokensFrom s rest
    | (none, s) => tokensFrom s rest
  | .word due later whole, b :: rest =>
    if b = due then
      match later with
      | [] => whole :: tokensFrom .between rest
      | next :: later => tokensFrom (.word next later whole) rest
    else [.brokenWord false]
  | .number s, b :: rest =>
    match s.step b with
    | .more s' => tokensFrom (.number s') rest
    | .broken => [.brokenNumber false]
    | .done =>
      match start b with
      | (some t, next) => .number s.numeral :: t :: tokensFrom next rest
      | (none, next) => .number s.numeral :: tokensFrom next rest
  | .text ps, b :: rest =>
    if b = 34 then closeString ps .quote :: tokensFrom .between rest
    else if b = 92 then tokensFrom (.escape ps) rest
    else if b < 32 then [closeString ps .control]
    else tokensFrom (.text (.byte b :: ps)) rest
  | .escape ps, b :: rest =>
    if b = 117 then tokensFrom (.digits 4 0 true ps) rest
    else if isEscapeLetter b then tokensFrom (.text (.letter b :: ps)) rest
    else [closeString ps .badLetter]
  | .digits due value sound ps, b :: rest =>
    match hexDigit? b with
    | some d =>
      if due ≤ 1 then
        if sound then tokensFrom (.text (.unit (value * 16 + d) :: ps)) rest
        else [closeString ps .badDigits]
      else tokensFrom (.digits (due - 1) (value * 16 + d) sound ps) rest
    | none =>
      if due ≤ 1 then [closeString ps .badDigits]
      else tokensFrom (.digits (due - 1) value false ps) rest

def tokens (text : Bytes) : List Token := tokensFrom .between text

end IdentityProvider.Json
