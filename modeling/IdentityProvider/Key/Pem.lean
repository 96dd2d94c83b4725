import IdentityProvider.Base64
import IdentityProvider.Start

/-!
# PEM text

A document in lines of base64 between a line that opens it and one that closes
it, both with the label of what it is. Lines have sixty-four characters, the
last one may be shorter; any of the three usual line ends will do. Other text
may stand in front, on lines of its own.
-/

namespace IdentityProvider.Pem

def lineLength : Nat := 64

def lineFeed : UInt8 := 10
def carriageReturn : UInt8 := 13

def opening : Bytes := Bytes.ofString "-----BEGIN "
def closing : Bytes := Bytes.ofString "-----END "
def dashes : Bytes := Bytes.ofString "-----"

-- ----- Line ends

/-- What follows a line end. -/
def afterLineEnd? : Bytes → Option Bytes
  | 13 :: 10 :: rest => some rest
  | 13 :: rest => some rest
  | 10 :: rest => some rest
  | _ => none

/-- What precedes a line end. -/
def beforeLineEnd? (bs : Bytes) : Option Bytes :=
  match bs.reverse with
  | 10 :: 13 :: rest => some rest.reverse
  | 10 :: rest => some rest.reverse
  | 13 :: rest => some rest.reverse
  | _ => none

/-- What precedes a given ending. -/
def before? (ending bs : Bytes) : Option Bytes :=
  (after? ending.reverse bs.reverse).map List.reverse

-- ----- Reading

/-- Leaves out the lines in front of the opening one. -/
def skipPreamble (bs : Bytes) : Option Bytes :=
  let rec go : Bytes → Option Bytes
    | [] => none
    | b :: rest =>
      if b = 0 then none
      else if b = lineFeed ∧ (after? opening rest).isSome then some rest
      else go rest
  if (after? opening bs).isSome then some bs else go bs

/-- What stands between the line that opens the document and the one that closes it. -/
def body? (label bs : Bytes) : Option Bytes := do
  let document ← skipPreamble bs
  let afterOpening ← after? (opening ++ label ++ dashes) document
  let rest ← afterLineEnd? afterOpening
  let upToDashes := (beforeLineEnd? rest).getD rest
  let body ← before? (closing ++ label ++ dashes) upToDashes
  beforeLineEnd? body

/-- The characters of all lines. The last line may be empty, or end in a line
end of its own that still fits into its sixty-four characters. -/
def joinLines (bs : Bytes) : Option Bytes :=
  if bs.length ≤ lineLength then some ((beforeLineEnd? bs).getD bs)
  else
    match _h : afterLineEnd? (bs.drop lineLength) with
    | none => none
    | some rest => (joinLines rest).map (bs.take lineLength ++ ·)
  termination_by bs.length
  decreasing_by
    have : rest.length ≤ (bs.drop lineLength).length := by
      revert _h
      unfold afterLineEnd?
      split <;> rintro ⟨⟩ <;> simp only [*, List.length_cons] <;> omega
    simp only [List.length_drop, lineLength] at *
    omega

/-- How much padding may follow so many symbols in the last group of four. It
may be missing in part, or stand in a group of its own. -/
def paddingFits (symbols padding : Nat) : Bool :=
  match symbols % 4 with
  | 0 => padding == 0 || padding == 2
  | 2 => padding ≤ 2
  | 3 => padding ≤ 1
  | _ => false

def unpad? (symbols : Bytes) : Option Bytes :=
  let padding := (symbols.reverse.takeWhile (· = Base64.pad)).length
  let bare := symbols.take (symbols.length - padding)
  if paddingFits bare.length padding then some bare else none

def decode (label : String) (text : Bytes) : Option Bytes := do
  let body ← body? (Bytes.ofString label) text
  if body = [] then none
  else
    let symbols ← joinLines body
    let bare ← unpad? symbols
    (Base64.decode .standard bare).toOption

-- ----- Writing

/-- Base64 with its last group filled up. -/
def padded (document : Bytes) : Bytes :=
  let symbols := Base64.encode .standard document
  symbols ++ List.replicate ((4 - symbols.length % 4) % 4) Base64.pad

def writeLines (bs : Bytes) : Bytes :=
  if bs.length ≤ lineLength then bs ++ [lineFeed]
  else bs.take lineLength ++ lineFeed :: writeLines (bs.drop lineLength)
  termination_by bs.length
  decreasing_by simp only [List.length_drop, lineLength] at *; omega

def encode (label : String) (document : Bytes) : Bytes :=
  let label := Bytes.ofString label
  opening ++ label ++ dashes ++ [lineFeed] ++ writeLines (padded document) ++
    closing ++ label ++ dashes ++ [lineFeed]

end IdentityProvider.Pem
