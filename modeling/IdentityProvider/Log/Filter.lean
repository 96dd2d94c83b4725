import IdentityProvider.Decimal
import IdentityProvider.Error.Log
import IdentityProvider.Text.Alphanumeric
import IdentityProvider.Text.Blank

/-!
# Log filters

A filter is a list of directives between commas. A directive is a level, or a
target and a span in brackets, perhaps with fields in braces, and perhaps a
level behind an equals sign. Only whether it can be read is decided here.
-/

namespace IdentityProvider.LogFilter

inductive Fault where
  | directive
  | level
  deriving Repr, DecidableEq

def Fault.message : Fault → String
  | .directive => "invalid filter directive"
  | .level =>
    "error parsing level filter: expected one of \"off\", \"error\", \"warn\", \"info\", " ++
      "\"debug\", \"trace\", or a number 0-5"

-- ----- Levels

def levelNames : List String := ["off", "error", "warn", "info", "debug", "trace"]

def lowered (b : UInt8) : UInt8 := if 65 ≤ b ∧ b ≤ 90 then b + 32 else b

/-- No level at all, a name in any case, or a number up to five. -/
def isLevel (text : Bytes) : Bool :=
  text.isEmpty || (Decimal.uint64? text).any (· ≤ 5) ||
    levelNames.any fun name => text.map lowered == Bytes.ofString name

-- ----- Directives

/-- What part of a directive is being read. -/
inductive Place where
  | start
  | name
  | span
  | field (empty : Bool)
  | fields
  | target
  | level (offset : Nat)
  deriving Repr, DecidableEq

def startsName (c : Char) : Bool :=
  c = '-' || c = ':' || c = '_' || Text.isAlphanumeric c

/-- Goes on with a character; `next` is where the character after it stands. -/
def Place.step (place : Place) (next : Nat) (c : Char) : Option Place :=
  match place with
  | .start => if c = '[' then some .span else if startsName c then some .name else none
  | .name => if c = '=' then some (.level next) else if c = '[' then some .span else some .name
  | .span => if c = ']' then some .target else if c = '\x7b' then some (.field true) else some .span
  | .field empty => if c = '\x7d' then if empty then none else some .fields else some (.field false)
  | .fields => if c = ']' then some .target else none
  | .target => if c = '=' then some (.level next) else none
  | .level offset => some (.level offset)

def Place.read : Place → (offset : Nat) → List Char → Option Place
  | place, _, [] => some place
  | place, offset, c :: cs =>
    let next := offset + c.utf8Size
    (place.step next c).bind fun place => place.read next cs

def trim (cs : List Char) : List Char :=
  ((cs.dropWhile Text.isBlank).reverse.dropWhile Text.isBlank).reverse

/-- Blanks around a directive do not count, but the place of its level is
counted without those in front and looked up with them. -/
def checkDirective (cs : List Char) : Except Fault Unit :=
  match Place.start.read 0 (trim cs) with
  | some (.level offset) =>
    if isLevel ((Bytes.ofString (String.ofList cs)).drop offset) then .ok () else .error .level
  | some .name | some .target => .ok ()
  | _ => .error .directive

/-- The parts between commas. -/
def directives : List Char → List (List Char)
  | [] => [[]]
  | c :: cs =>
    if c = ',' then [] :: directives cs
    else match directives cs with
      | [] => [[c]]
      | d :: ds => (c :: d) :: ds

/-- Directives may be empty. -/
def check (filter : String) : Except Fault Unit :=
  ((directives filter.toList).filter fun d => !d.isEmpty).forM checkDirective

end IdentityProvider.LogFilter
