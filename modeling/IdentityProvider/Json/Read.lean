import IdentityProvider.Json.Shape
import IdentityProvider.Json.Skip

/-!
# Reading values of a shape

Values are read from tokens in reading order, and the first error ends it. A
record may be spelled as an object, whose members come in any order and once
each, or as a list of its members in their own order. Members that the record
does not have are passed over.
-/

namespace IdentityProvider.Json

/-- A value and the tokens after it. -/
abbrev Reader (α : Type) := List Token → Except ReadError (α × List Token)

def failWith (f : Fault) : Except ReadError α := .error (.fault f)

def liftFault : Except Fault α → Except ReadError α
  | .ok a => .ok a
  | .error f => .error (.fault f)

def Found.ofNumber : Number → Found
  | .natural n => .integer n
  | .negative n => .integer n
  | .float f => .float f

/-- The error of finding another kind of value than the expected one. -/
def wrongType (expected : String) : List Token → ReadError
  | [] => .fault .eofInValue
  | .null :: _ => .invalidType .null expected
  | .bool b :: _ => .invalidType (.boolean b) expected
  | .number n :: _ =>
    match n.value with
    | .ok v => .invalidType (.ofNumber v) expected
    | .error f => .fault f
  | .string s :: _ =>
    match s.text with
    | .ok text => .invalidType (.string text) expected
    | .error f => .fault f
  | .leftBracket :: _ => .invalidType .sequence expected
  | .leftBrace :: _ => .invalidType .map expected
  | .brokenNumber atEnd :: _ => .fault (if atEnd then .eofInValue else .invalidNumber)
  | .brokenWord atEnd :: _ => .fault (if atEnd then .eofInValue else .expectedWord)
  | .rightBracket :: _ | .rightBrace :: _ | .colon :: _ | .comma :: _ | .stray _ :: _ =>
    .fault .expectedValue

-- ----- Plain values

def readText (expected : String) : Reader String
  | .string s :: rest => do
    let text ← liftFault s.text
    .ok (text, rest)
  | ts => .error (wrongType expected ts)

def readFlag : Reader Bool
  | .bool b :: rest => .ok (b, rest)
  | ts => .error (wrongType "a boolean" ts)

def readInteger (w : Word) : Reader w.Value
  | .number n :: rest => do
    let inWord (k : Int) : Except ReadError (w.Value × List Token) :=
      match w.ofInt? k with
      | some v => .ok (v, rest)
      | none => .error (.invalidValue (.integer k) w.name)
    match ← liftFault n.value with
    | .natural k => inWord k
    | .negative k => inWord k
    | .float f => .error (.invalidType (.float f) w.name)
  | ts => .error (wrongType w.name ts)

/-- The colon between a name and its value. -/
def readColon : List Token → Except ReadError (List Token)
  | .colon :: rest => .ok rest
  | [] => failWith .eofInObject
  | _ => failWith .expectedColon

/-- The place of a name among the accepted ones. -/
def indexOf? (name : String) (names : List String) : Option (Fin names.length) :=
  names.finIdxOf? name

def readName (names : List String) : Reader (Fin names.length)
  | ts => do
    let (name, rest) ← readText "variant identifier" ts
    match indexOf? name names with
    | some i => .ok (i, rest)
    | none => .error (.unknownVariant name names)

/-- A name, or an object whose only member has that name and the value null. -/
def readChoice (names : List String) : Reader (Fin names.length)
  | .string s :: rest => readName names (.string s :: rest)
  | .leftBrace :: rest => do
    let (i, rest) ← readName names rest
    match ← readColon rest with
    | .null :: rest =>
      match rest with
      | .rightBrace :: rest => .ok (i, rest)
      | [] => failWith .eofInObject
      | _ => failWith .expectedValue
    | ts => .error (wrongType "unit" ts)
  | [] => failWith .eofInValue
  | _ => failWith .expectedValue

-- ----- Lists

/-- The tokens of the next entry; none at the closing bracket, which stays. -/
def nextEntry? (first : Bool) : List Token → Except ReadError (Option (List Token))
  | [] => failWith .eofInList
  | .rightBracket :: _ => .ok none
  | .comma :: rest =>
    if first then .ok (some (.comma :: rest))
    else match rest with
      | .rightBracket :: _ => failWith .trailingComma
      | [] => failWith .eofInValue
      | ts => .ok (some ts)
  | ts => if first then .ok (some ts) else failWith .expectedListCommaOrEnd

/-- The end of a list that holds as many entries as were asked for. -/
def closeList : List Token → Except ReadError (List Token)
  | .rightBracket :: rest => .ok rest
  | .comma :: .rightBracket :: _ => failWith .trailingComma
  | [] => failWith .eofInList
  | _ => failWith .trailingCharacters

/-- Entries up to the closing bracket; there are fewer of them than tokens. -/
def readEntries (entry : Reader α) : (fuel : Nat) → (first : Bool) → Reader (List α)
  | 0, _, _ => failWith .eofInList
  | fuel + 1, first, ts => do
    match ← nextEntry? first ts with
    | none => .ok ([], ts)
    | some ts =>
      let (a, ts) ← entry ts
      let (as, ts) ← readEntries entry fuel false ts
      .ok (a :: as, ts)

def readTexts : Reader (List String)
  | .leftBracket :: rest => do
    let (texts, rest) ← readEntries (readText Shape.anyText) (rest.length + 1) true rest
    let rest ← closeList rest
    .ok (texts, rest)
  | ts => .error (wrongType "a sequence" ts)

-- ----- Objects

/-- The tokens of the next member; none at the closing brace, which stays. -/
def nextMember? (first : Bool) : List Token → Except ReadError (Option (List Token))
  | [] => failWith .eofInObject
  | .rightBrace :: _ => .ok none
  | .comma :: rest =>
    if first then failWith .keyMustBeString
    else match rest with
      | .string s :: rest => .ok (some (.string s :: rest))
      | .rightBrace :: _ => failWith .trailingComma
      | [] => failWith .eofInValue
      | _ => failWith .keyMustBeString
  | .string s :: rest =>
    if first then .ok (some (.string s :: rest)) else failWith .expectedObjectCommaOrEnd
  | _ => if first then failWith .keyMustBeString else failWith .expectedObjectCommaOrEnd

/-- Members up to the closing brace, each handed on by its name to a step that
reads its value into the state; there are fewer of them than tokens. -/
def readObject (member : String → σ → Reader σ) : (fuel : Nat) → (first : Bool) → σ → Reader σ
  | 0, _, _, _ => failWith .eofInObject
  | fuel + 1, first, state, ts => do
    match ← nextMember? first ts with
    | none => .ok (state, ts)
    | some ts =>
      let (name, ts) ← readText Shape.anyText ts
      let (state, ts) ← member name state ts
      readObject member fuel false state ts

/-- Past the closing brace. -/
def closeObject : List Token → Except ReadError (List Token)
  | .rightBrace :: rest => .ok rest
  | [] => failWith .eofInObject
  | .comma :: _ => failWith .trailingComma
  | _ => failWith .trailingCharacters

def readTableEntry (name : String) (t : Table) : Reader Table
  | ts => do
    let ts ← readColon ts
    let (value, ts) ← readText Shape.anyText ts
    .ok (t.insert name value, ts)

def readTable : Reader Table
  | .leftBrace :: rest => do
    let (t, rest) ← readObject readTableEntry (rest.length + 1) true .empty rest
    let rest ← closeObject rest
    .ok (t, rest)
  | ts => .error (wrongType "a map" ts)

/-- A member that the record does not have. -/
def skipMember (ts : List Token) : Except ReadError (List Token) := do
  let ts ← readColon ts
  liftFault (skipValue ts)

-- ----- Records

/-- The values of an object's members, once all are read. -/
def Members.finish : (ms : Members) → ms.Slots → Except ReadError ms.Value
  | .nil, () => .ok ()
  | .required _ _ rest, (some v, slots) => do
    let vs ← rest.finish slots
    .ok (v, vs)
  | .required name _ _, (none, _) => .error (.missingField name)
  | .absentable _ _ rest, (v, slots) => do
    let vs ← rest.finish slots
    .ok (v, vs)

def recordName (name : String) : String := "struct " ++ name

def recordLength (name : String) (count : Nat) : String :=
  recordName name ++ " with " ++ natText count ++ (if count = 1 then " element" else " elements")

/-- Fills the slot of a member, which must be empty. -/
def fill (name : String) (read : Reader α) : Option α → Reader (Option α)
  | some _, _ => .error (.duplicateField name)
  | none, ts => do
    let ts ← readColon ts
    let (a, ts) ← read ts
    .ok (some a, ts)

mutual
def Shape.read : (s : Shape) → Reader s.Value
  | .text expected => readText expected
  | .flag => readFlag
  | .integer w => readInteger w
  | .choice names => readChoice names
  | .optional s => fun
    | .null :: rest => .ok (none, rest)
    | ts => do
      let (v, ts) ← s.read ts
      .ok (some v, ts)
  | .texts => readTexts
  | .table => readTable
  | .record name ms => fun
    | .leftBracket :: rest => do
      let (v, rest) ← ms.readList (recordLength name ms.count) 0 rest
      let rest ← closeList rest
      .ok (v, rest)
    | .leftBrace :: rest => do
      let (slots, rest) ← readObject ms.readMember (rest.length + 1) true ms.noSlots rest
      let v ← ms.finish slots
      let rest ← closeObject rest
      .ok (v, rest)
    | ts => .error (wrongType (recordName name) ts)
/-- Reads the value of the member with a name into its slot. -/
def Members.readMember : (ms : Members) → String → ms.Slots → Reader ms.Slots
  | .nil, _, (), ts => do
    let ts ← skipMember ts
    .ok ((), ts)
  | .required name s rest, key, (v, vs), ts =>
    if key = name then do
      let (v, ts) ← fill name s.read v ts
      .ok ((v, vs), ts)
    else do
      let (vs, ts) ← rest.readMember key vs ts
      .ok ((v, vs), ts)
  | .absentable name s rest, key, (v, vs), ts =>
    if key = name then do
      let (v, ts) ← fill name s.read v ts
      .ok ((v, vs), ts)
    else do
      let (vs, ts) ← rest.readMember key vs ts
      .ok ((v, vs), ts)
/-- Reads a list's entries as the members in their own order, from the `index`-th on. -/
def Members.readList : (ms : Members) → (length : String) → (index : Nat) → Reader ms.Value
  | .nil, _, _, ts => .ok ((), ts)
  | .required _ s rest, length, index, ts => do
    match ← nextEntry? (index = 0) ts with
    | none => .error (.invalidLength index length)
    | some ts =>
      let (v, ts) ← s.read ts
      let (vs, ts) ← rest.readList length (index + 1) ts
      .ok ((v, vs), ts)
  | .absentable _ s rest, length, index, ts => do
    match ← nextEntry? (index = 0) ts with
    | none =>
      let (vs, ts) ← rest.readList length (index + 1) ts
      .ok ((none, vs), ts)
    | some ts =>
      let (v, ts) ← s.read ts
      let (vs, ts) ← rest.readList length (index + 1) ts
      .ok ((some v, vs), ts)
end

/-- The value a whole text spells. -/
def Shape.decode (s : Shape) (text : Bytes) : Except ReadError s.Value := do
  let (v, rest) ← s.read (tokens text)
  if rest = [] then .ok v else failWith .trailingCharacters

end IdentityProvider.Json
