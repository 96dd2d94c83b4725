import IdentityProvider.Json.Shape

/-!
# Writing values of a shape

Values are written without blanks: members in the record's order and absent
ones left out, tables in the order of their names.
-/

namespace IdentityProvider.Json

def stringToken (s : String) : Token := .string (.ofText s)

/-- The digits of a number as a numeral spells them. -/
def wholeDigits (n : Nat) : List Nat :=
  if n = 0 then [0] else (Decimal.reversedDigits n).reverse

def integerToken : Int → Token
  | .ofNat n => .number ⟨false, wholeDigits n, [], none⟩
  | .negSucc n => .number ⟨true, wholeDigits (n + 1), [], none⟩

/-- Puts a token between the entries of a list. -/
def separated : List (List Token) → List Token
  | [] => []
  | [entry] => entry
  | entry :: rest => entry ++ .comma :: separated rest

def memberTokens (name : String) (value : List Token) : List Token :=
  stringToken name :: .colon :: value

mutual
def Shape.write : (s : Shape) → s.Value → List Token
  | .text _, v => [stringToken v]
  | .flag, v => [.bool v]
  | .integer w, v => [integerToken (w.toInt v)]
  | .choice names, v => [stringToken names[v]]
  | .optional _, none => [.null]
  | .optional s, some v => s.write v
  | .texts, v => .leftBracket :: (separated (v.map fun t => [stringToken t]) ++ [.rightBracket])
  | .table, v =>
    .leftBrace ::
      (separated (v.entries.map fun e => memberTokens e.1 [stringToken e.2]) ++ [.rightBrace])
  | .record _ ms, v => .leftBrace :: (separated (ms.write v) ++ [.rightBrace])
/-- The tokens of each member that is there. -/
def Members.write : (ms : Members) → ms.Value → List (List Token)
  | .nil, _ => []
  | .required name s rest, (v, vs) => memberTokens name (s.write v) :: rest.write vs
  | .absentable name s rest, (some v, vs) => memberTokens name (s.write v) :: rest.write vs
  | .absentable _ _ rest, (none, vs) => rest.write vs
end

-- ----- Tokens as text

def digitBytes (ds : List Nat) : Bytes := ds.map Decimal.digitByte

def Exponent.write (e : Exponent) : Bytes :=
  101 :: ((if e.negative then [45] else []) ++ digitBytes e.digits)

def Numeral.write (n : Numeral) : Bytes :=
  (if n.negative then [45] else []) ++ digitBytes n.whole ++
    (if n.fraction.isEmpty then [] else 46 :: digitBytes n.fraction) ++
    (match n.exponent with | none => [] | some e => e.write)

/-- The spelling of a token; broken ones have none. -/
def Token.write : Token → Bytes
  | .leftBrace => [123]
  | .rightBrace => [125]
  | .leftBracket => [91]
  | .rightBracket => [93]
  | .colon => [58]
  | .comma => [44]
  | .null => [110, 117, 108, 108]
  | .bool true => [116, 114, 117, 101]
  | .bool false => [102, 97, 108, 115, 101]
  | .number n => n.write
  | .string s => s.write
  | .stray b => [b]
  | .brokenNumber _ | .brokenWord _ => []

def Shape.encode (s : Shape) (v : s.Value) : Bytes := (s.write v).flatMap Token.write

end IdentityProvider.Json
