import IdentityProvider.Log.Fingerprint
import IdentityProvider.Start
import IdentityProvider.Text.DecimalDigit
import IdentityProvider.Text.WordChar

/-!
# Redaction

Tokens and password hashes in a text are masked before it is written anywhere.
A text is searched from left to right; where a secret begins, as much of it as
there is is replaced by a mask, and the search goes on behind it.
-/

namespace IdentityProvider

/-- Finds a secret at the beginning of a text, given the character before it. -/
abbrev SecretPattern := Option Char → List Char → Option (List Char)

namespace SecretPattern

-- ----- Parts of secrets

def isLetterOrFigure (c : Char) : Bool := c.isAlpha || c.isDigit

def isTokenChar (c : Char) : Bool := isLetterOrFigure c || c = '_' || c = '-'

def isArgon2Char (c : Char) : Bool :=
  isLetterOrFigure c || c = '=' || c = ',' || c = '+' || c = '/' || c = '$'

def isBcryptChar (c : Char) : Bool := isLetterOrFigure c || c = '.' || c = '/'

-- ----- The secrets

/-- Three parts between dots, the first beginning as a JSON object does in
base64, and no letter of a word before it. The last part may be missing. -/
def token : SecretPattern := fun before cs =>
  if before.any Text.isWordChar then none
  else do
    let start := ['e', 'y', 'J']
    let rest ← after? start cs
    let header := rest.takeWhile isTokenChar
    let rest ← after? ['.'] (rest.dropWhile isTokenChar)
    let claims := rest.takeWhile isTokenChar
    let rest ← after? ['.'] (rest.dropWhile isTokenChar)
    let signature := rest.takeWhile isTokenChar
    if claims = [] then none
    else some (start ++ header ++ '.' :: claims ++ '.' :: signature)

def argon2Starts : List (List Char) :=
  ["$argon2id$".toList, "$argon2i$".toList, "$argon2d$".toList]

/-- A start of one of the three variants, and at least one character more. -/
def argon2 : SecretPattern := fun _ cs =>
  argon2Starts.findSome? fun start =>
    (after? start cs).bind fun rest =>
      let body := rest.takeWhile isArgon2Char
      if body = [] then none else some (start ++ body)

def bcryptVersions : List (List Char) :=
  [['$', '2', 'a', '$'], ['$', '2', 'b', '$'], ['$', '2', 'x', '$'], ['$', '2', 'y', '$'],
    ['$', '2', '$']]

def bcryptBodyLength : Nat := 53

/-- A cost of two digits and a body of fixed length. -/
def bcryptRest : List Char → Option (List Char)
  | a :: b :: '$' :: rest =>
    let body := (rest.take bcryptBodyLength).takeWhile isBcryptChar
    if Text.isDecimalDigit a ∧ Text.isDecimalDigit b ∧ body.length = bcryptBodyLength then
      some (a :: b :: '$' :: body)
    else none
  | _ => none

def bcrypt : SecretPattern := fun _ cs =>
  bcryptVersions.findSome? fun version =>
    (after? version cs).bind fun rest => (bcryptRest rest).map (version ++ ·)

-- ----- Replacing

def replaceFrom (find : SecretPattern) (mask : List Char → List Char) :
    Option Char → List Char → List Char
  | _, [] => []
  | before, c :: cs =>
    match find before (c :: cs) with
    | some (s :: secret) =>
      mask (s :: secret) ++ replaceFrom find mask (secret.getLastD s) (cs.drop secret.length)
    | _ => c :: replaceFrom find mask c cs
  termination_by _ cs => cs.length
  decreasing_by all_goals simp only [List.length_drop, List.length_cons]; omega

def replace (find : SecretPattern) (mask : List Char → List Char) (cs : List Char) : List Char :=
  replaceFrom find mask none cs

end SecretPattern

-- ----- Redactors

structure Redactor where
  tokens : Bool := true
  passwordHashes : Bool := true
  /-- Whether a mask tells equal secrets from different ones. -/
  correlation : Bool := true

namespace Redactor

/-- The label says what was there. -/
def mask (r : Redactor) (label : String) (secret : List Char) : List Char :=
  let inner :=
    if r.correlation then fingerprint (Bytes.ofString (String.ofList secret)) else "REDACTED"
  (label ++ "[" ++ inner ++ "]").toList

/-- What to look for, in order, and what to call it. -/
def patterns (r : Redactor) : List (SecretPattern × String) :=
  (if r.tokens then [(SecretPattern.token, "JWT")] else []) ++
    (if r.passwordHashes then [(SecretPattern.argon2, "HASH"), (SecretPattern.bcrypt, "HASH")]
      else [])

def redactChars (r : Redactor) (cs : List Char) : List Char :=
  r.patterns.foldl (fun cs p => SecretPattern.replace p.1 (r.mask p.2) cs) cs

def redact (r : Redactor) (text : String) : String := String.ofList (r.redactChars text.toList)

end Redactor

end IdentityProvider
