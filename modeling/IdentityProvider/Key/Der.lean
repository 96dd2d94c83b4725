import IdentityProvider.Bytes
import IdentityProvider.Start

/-!
# DER elements

Keys are nested elements: a tag, a length and that many bytes. Each length and
each number has one spelling, and reading refuses every other. Reading goes one
level deep; what an element holds is read when it is asked for.
-/

namespace IdentityProvider.Der

structure Element where
  tag : UInt8
  content : Bytes
  deriving Repr, DecidableEq

def integerTag : UInt8 := 0x02
def bitStringTag : UInt8 := 0x03
def octetStringTag : UInt8 := 0x04
def nullTag : UInt8 := 0x05
def identifierTag : UInt8 := 0x06
def sequenceTag : UInt8 := 0x30

/-- The tags of the types that have a name: booleans, numbers, strings, times, collections. -/
def namedTags : List UInt8 :=
  [0x01, 0x02, 0x03, 0x04, 0x05, 0x06, 0x09, 0x0A, 0x0C, 0x12, 0x13, 0x14, 0x15, 0x16, 0x17, 0x18,
   0x1A, 0x1E, 0x30, 0x31]

/-- Tags of the other classes carry a number below thirty-one. -/
def isTag (tag : UInt8) : Bool :=
  if tag < 0x40 then namedTags.contains tag else tag &&& 0x1f != 0x1f

-- ----- Lengths

/-- Lengths are below this, also the length of the whole. -/
def maxLength : Nat := 0x10000000

def writeLength (n : Nat) : Bytes :=
  if n < 128 then [UInt8.ofNat n]
  else UInt8.ofNat (128 + Bytes.digitCount n) :: Bytes.digits n

/-- A length below 128 is one byte; a longer one says first how many bytes it
has, and has no more than it needs. -/
def readLength : Bytes → Option (Nat × Bytes)
  | [] => none
  | b :: rest =>
    if b < 128 then some (b.toNat, rest)
    else
      let n := Bytes.toNat (rest.take (b.toNat - 128))
      if 128 ≤ n ∧ n < maxLength ∧ Bytes.digitCount n = b.toNat - 128 then
        (after? (Bytes.digits n) rest).map (n, ·)
      else none

-- ----- Elements

def Element.write (e : Element) : Bytes := e.tag :: writeLength e.content.length ++ e.content

def Element.read : Bytes → Option (Element × Bytes)
  | [] => none
  | tag :: rest =>
    match readLength rest with
    | none => none
    | some (n, body) =>
      if isTag tag ∧ n ≤ body.length then some (⟨tag, body.take n⟩, body.drop n) else none

def writeAll (es : List Element) : Bytes := es.flatMap Element.write

theorem length_readLength {bs rest : Bytes} {n : Nat} (h : readLength bs = some (n, rest)) :
    rest.length < bs.length := by
  cases bs with
  | nil => simp [readLength] at h
  | cons b bs =>
    simp only [readLength] at h
    split at h
    · simp_all
    · split at h
      · obtain ⟨r, hr, he⟩ := Option.map_eq_some_iff.mp h
        obtain ⟨-, rfl⟩ := Prod.mk.inj he
        rw [after?_eq_some_iff.mp hr, List.length_cons, List.length_append]
        omega
      · contradiction

theorem Element.length_read {bs rest : Bytes} {e : Element} (h : Element.read bs = some (e, rest)) :
    rest.length < bs.length := by
  cases bs with
  | nil => simp [Element.read] at h
  | cons b bs =>
    simp only [Element.read] at h
    split at h
    · contradiction
    · rename_i n body hl
      split at h
      · have := length_readLength hl
        simp only [Option.some.injEq, Prod.mk.injEq] at h
        simp [← h.2]
        omega
      · contradiction

/-- Elements one after the other, with nothing left over. -/
def readAll (bs : Bytes) : Option (List Element) :=
  if bs = [] then some []
  else match h : Element.read bs with
    | none => none
    | some (e, rest) =>
      have := Element.length_read h
      (readAll rest).map (e :: ·)
  termination_by bs.length

/-- The elements inside an element with the given tag. -/
def Element.inside? (tag : UInt8) (e : Element) : Option (List Element) :=
  if e.tag = tag then readAll e.content else none

def container (tag : UInt8) (es : List Element) : Element := ⟨tag, writeAll es⟩

def sequence (es : List Element) : Element := container sequenceTag es

/-- The elements of a sequence that is the whole of the bytes. -/
def readSequence (bs : Bytes) : Option (List Element) :=
  if bs.length < maxLength then
    match readAll bs with
    | some [e] => e.inside? sequenceTag
    | _ => none
  else none

-- ----- Values

/-- The digits of a number, with a zero in front where the first would look like a sign. -/
def naturalContent (n : Nat) : Bytes :=
  match Bytes.digits n with
  | [] => [0]
  | d :: ds => if d < 128 then d :: ds else 0 :: d :: ds

def natural (n : Nat) : Element := ⟨integerTag, naturalContent n⟩

def Element.natural? (e : Element) : Option Nat :=
  let n := Bytes.toNat e.content
  if e = natural n then some n else none

def octets (bs : Bytes) : Element := ⟨octetStringTag, bs⟩

def Element.octets? (e : Element) : Option Bytes :=
  if e.tag = octetStringTag then some e.content else none

/-- A string of bits that fills its bytes. -/
def bits (bs : Bytes) : Element := ⟨bitStringTag, 0 :: bs⟩

/-- The content of a bit string: the number of unused bits, here zero, and the bytes. -/
def bitsContent? : Bytes → Option Bytes
  | [] => none
  | unused :: bs => if unused = 0 then some bs else none

def Element.bits? (e : Element) : Option Bytes :=
  if e.tag = bitStringTag then bitsContent? e.content else none

def null : Element := ⟨nullTag, []⟩

def identifier (oid : Bytes) : Element := ⟨identifierTag, oid⟩

-- ----- Object identifiers

/-- Groups of seven bits with a mark on all but the last byte of an arc; an arc
has thirty-two bits, so a fifth byte is its last and below sixteen. -/
def isArcs : (place : Nat) → Bytes → Bool
  | place, [] => place = 0
  | place, b :: rest =>
    if place = 4 ∧ 16 ≤ b then false
    else if b < 128 then isArcs 0 rest
    else isArcs (place + 1) rest

/-- Two arcs share the first byte, the first of them at most two. -/
def isIdentifier : Bytes → Bool
  | [] => false
  | first :: arcs =>
    first < 120 && 2 ≤ arcs.length && arcs.length ≤ 38 && isArcs 0 arcs

-- ----- Optional members

/-- A member that is known by a number instead of its type. -/
def isNumbered (tag : UInt8) : Bool := tag &&& 0xC0 == 0x80

def isConstructed (tag : UInt8) : Bool := tag &&& 0x20 == 0x20

def Element.hasNumber (n : UInt8) (e : Element) : Bool := isNumbered e.tag && e.tag &&& 0x1f == n

/-- Numbered members with a lower number than the one that is looked for are passed over. -/
def skipBelow (n : UInt8) (es : List Element) : List Element :=
  es.dropWhile fun e => isNumbered e.tag && e.tag &&& 0x1f < n

/-- The tag of a numbered member that wraps an element. -/
def wrapperTag (n : UInt8) : UInt8 := 0xA0 ||| n

/-- The tag of a numbered member that replaces the tag of a plain value. -/
def replacingTag (n : UInt8) : UInt8 := 0x80 ||| n

/-- The one element inside a wrapper. -/
def Element.wrapped? (e : Element) : Option Element :=
  if isNumbered e.tag ∧ isConstructed e.tag then
    match readAll e.content with
    | some [inner] => some inner
    | _ => none
  else none

end IdentityProvider.Der
