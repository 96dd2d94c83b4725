import IdentityProvider.Json.Number
import IdentityProvider.Json.Text
import IdentityProvider.Table
import IdentityProvider.Text.Quoted

/-!
# Shapes of JSON values

A shape says how a value of some type is spelled. Every record that is read or
written has a shape, so that reading and writing are defined once. A member of
a record is required, or may be absent; an absent member is the reader's to
fill in, and a value that need not be written is absent.
-/

namespace IdentityProvider.Json

/-- The integers a shape can hold. -/
inductive Word where
  | int64
  | uint32
  | uint64
  deriving Repr, DecidableEq

mutual
inductive Shape where
  /-- A string; the words say what was expected when there is none. -/
  | text (expected : String)
  | flag
  | integer (w : Word)
  /-- One of some names. -/
  | choice (names : List String)
  /-- Null, or a value. -/
  | optional (s : Shape)
  | texts
  /-- An object of strings under any names. -/
  | table
  | record (name : String) (members : Members)
inductive Members where
  | nil
  | required (name : String) (s : Shape) (rest : Members)
  | absentable (name : String) (s : Shape) (rest : Members)
end

/-- What is expected where any string will do. -/
def Shape.anyText : String := "a string"

/-- Any string. -/
@[reducible] def Shape.string : Shape := .text Shape.anyText

@[reducible] def Word.Value : Word → Type
  | .int64 => Int64
  | .uint32 => UInt32
  | .uint64 => UInt64

mutual
/-- The values of a shape. -/
@[reducible] def Shape.Value : Shape → Type
  | .text _ => String
  | .flag => Bool
  | .integer w => w.Value
  | .choice names => Fin names.length
  | .optional s => Option s.Value
  | .texts => List String
  | .table => Table
  | .record _ ms => ms.Value
/-- One value for each required member and perhaps one for each other member. -/
@[reducible] def Members.Value : Members → Type
  | .nil => Unit
  | .required _ s rest => s.Value × rest.Value
  | .absentable _ s rest => Option s.Value × rest.Value
end

/-- The values read so far. -/
@[reducible] def Members.Slots : Members → Type
  | .nil => Unit
  | .required _ s rest => Option s.Value × rest.Slots
  | .absentable _ s rest => Option s.Value × rest.Slots

def Members.noSlots : (ms : Members) → ms.Slots
  | .nil => ()
  | .required _ _ rest => (none, rest.noSlots)
  | .absentable _ _ rest => (none, rest.noSlots)

def Members.count : Members → Nat
  | .nil => 0
  | .required _ _ rest => rest.count + 1
  | .absentable _ _ rest => rest.count + 1

def Word.name : Word → String
  | .int64 => "i64"
  | .uint32 => "u32"
  | .uint64 => "usize"

def Word.ofInt? : (w : Word) → Int → Option w.Value
  | .int64, n => if -0x8000000000000000 ≤ n ∧ n < 0x8000000000000000 then some (Int64.ofInt n) else none
  | .uint32, n => if 0 ≤ n ∧ n < UInt32.size then some (UInt32.ofNat n.toNat) else none
  | .uint64, n => if 0 ≤ n ∧ n < UInt64.size then some (UInt64.ofNat n.toNat) else none

def Word.toInt : (w : Word) → w.Value → Int
  | .int64, n => n.toInt
  | .uint32, n => n.toNat
  | .uint64, n => n.toNat

-- ----- Errors of reading

/-- What was found where something else was expected. -/
inductive Found where
  | null
  | boolean (b : Bool)
  | integer (n : Int)
  | float (f : Float)
  | string (s : String)
  | sequence
  | map
  deriving Repr

def Found.message : Found → String
  | .null => "null"
  | .boolean true => "boolean `true`"
  | .boolean false => "boolean `false`"
  | .integer n => "integer `" ++ intText n ++ "`"
  | .float f => "floating point `" ++ floatStyle.write f ++ "`"
  | .string s => "string " ++ Text.quoted s
  | .sequence => "sequence"
  | .map => "map"

inductive ReadError where
  | fault (f : Fault)
  | invalidType (found : Found) (expected : String)
  | invalidValue (found : Found) (expected : String)
  | missingField (name : String)
  | duplicateField (name : String)
  | unknownVariant (found : String) (names : List String)
  | invalidLength (length : Nat) (expected : String)
  deriving Repr

def between (s : String) : String := "`" ++ s ++ "`"

def commaSeparated : List String → String
  | [] => ""
  | [s] => s
  | s :: rest => s ++ ", " ++ commaSeparated rest

/-- How the accepted names are listed. -/
def nameChoice : List String → String
  | [] => "there are no variants"
  | [a] => "expected " ++ between a
  | [a, b] => "expected " ++ between a ++ " or " ++ between b
  | names => "expected one of " ++ commaSeparated (names.map between)

def ReadError.message : ReadError → String
  | .fault f => f.message
  | .invalidType found expected => "invalid type: " ++ found.message ++ ", expected " ++ expected
  | .invalidValue found expected => "invalid value: " ++ found.message ++ ", expected " ++ expected
  | .missingField name => "missing field " ++ between name
  | .duplicateField name => "duplicate field " ++ between name
  | .unknownVariant found names => "unknown variant " ++ between found ++ ", " ++ nameChoice names
  | .invalidLength length expected =>
    "invalid length " ++ natText length ++ ", expected " ++ expected

end IdentityProvider.Json
