import IdentityProvider.Json.Error

/-!
# The text of a JSON string

A string's source stands for bytes: itself, the byte of a one-letter escape, or
the UTF-8 form of a code unit. Two code units that are a surrogate pair stand
for one character, and a lone surrogate is a fault. The bytes must be UTF-8.
-/

namespace IdentityProvider.Json

/-- The fault of a source that does not end in a quote. -/
def StringEnd.fault? : StringEnd → Option Fault
  | .quote => none
  | .missing => some .eofInString
  | .control => some .controlCharacter
  | .badLetter => some .invalidEscape
  | .badDigits => some .invalidEscape

/-- What is wrong with the end of a source when a second surrogate is due there. -/
def StringEnd.unpaired : StringEnd → Fault
  | .missing => .eofInString
  | .badDigits => .invalidEscape
  | .quote | .control | .badLetter => .unfinishedSurrogate

def escapedByte (letter : UInt8) : UInt8 :=
  if letter = 98 then 8
  else if letter = 102 then 12
  else if letter = 110 then 10
  else if letter = 114 then 13
  else if letter = 116 then 9
  else letter

def isHighSurrogate (n : Nat) : Bool := 0xD800 ≤ n && n ≤ 0xDBFF
def isLowSurrogate (n : Nat) : Bool := 0xDC00 ≤ n && n ≤ 0xDFFF

def codePointBytes (n : Nat) : Bytes := String.utf8EncodeChar (Char.ofNat n)

/-- The bytes a source stands for; the first fault in reading order wins. -/
def resolve (stop : StringEnd) : List Piece → Except Fault Bytes
  | [] =>
    match stop.fault? with
    | some f => .error f
    | none => .ok []
  | .byte b :: rest => (resolve stop rest).map (b :: ·)
  | .letter b :: rest => (resolve stop rest).map (escapedByte b :: ·)
  | [.unit n] =>
    if isLowSurrogate n then .error .loneSurrogate
    else if isHighSurrogate n then .error stop.unpaired
    else match stop.fault? with
      | some f => .error f
      | none => .ok (codePointBytes n)
  | .unit n :: next :: rest =>
    if isLowSurrogate n then .error .loneSurrogate
    else if isHighSurrogate n then
      match next with
      | .unit m =>
        if isLowSurrogate m then
          (resolve stop rest).map
            (codePointBytes (0x10000 + (n - 0xD800) * 0x400 + (m - 0xDC00)) ++ ·)
        else .error .loneSurrogate
      | _ => .error .unfinishedSurrogate
    else (resolve stop (next :: rest)).map (codePointBytes n ++ ·)

def StringSource.text (s : StringSource) : Except Fault String := do
  let bytes ← resolve s.stop s.pieces
  match bytes.toString? with
  | some text => .ok text
  | none => .error .invalidCodePoint

/-- The source is only passed over: neither surrogates nor UTF-8 are looked at. -/
def StringSource.passOver (s : StringSource) : Except Fault Unit :=
  match s.stop.fault? with
  | some f => .error f
  | none => .ok ()

-- ----- Writing

def hexByte (n : Nat) : UInt8 := UInt8.ofNat (Bytes.hexDigit n).toNat

/-- The piece a byte is written as: quotes, backslashes and control characters
are escaped, everything else is itself. -/
def Piece.ofByte (b : UInt8) : Piece :=
  if b = 34 ∨ b = 92 then .letter b
  else if b = 8 then .letter 98
  else if b = 9 then .letter 116
  else if b = 10 then .letter 110
  else if b = 12 then .letter 102
  else if b = 13 then .letter 114
  else if b < 32 then .unit b.toNat
  else .byte b

def Piece.write : Piece → Bytes
  | .byte b => [b]
  | .letter b => [92, b]
  | .unit n =>
    [92, 117, hexByte (n / 4096), hexByte (n / 256 % 16), hexByte (n / 16 % 16), hexByte (n % 16)]

def StringSource.ofText (s : String) : StringSource := ⟨(Bytes.ofString s).map Piece.ofByte, .quote⟩

/-- The source between quotes. -/
def StringSource.write (s : StringSource) : Bytes := 34 :: (s.pieces.flatMap Piece.write ++ [34])

end IdentityProvider.Json
