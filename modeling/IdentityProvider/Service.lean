import IdentityProvider.Log.Event
import IdentityProvider.Log.Fingerprint
import IdentityProvider.Service.Config
import IdentityProvider.Storage
import IdentityProvider.Token.Policy

/-!
# The token service

The service issues, signs, parses and validates tokens with one active key,
which may be replaced at any time. Everything that depends on the key is derived
when the key is set.
-/

namespace IdentityProvider

variable [VerifyingKey P] [SigningKey K P]

/-- A private key and what is derived from it. -/
structure SigningKeys (K P : Type) where
  privateKey : K
  publicKey : P
  algorithm : Algorithm
  keyId : String

/-- Naming a key fails only if the document of its public key is too long to be written, and
that of a key that can be loaded never is. -/
def SigningKeys.ofKey (key : K) : SigningKeys K P :=
  let publicKey := SigningKey.publicKey key
  ⟨key, publicKey, SigningKey.algorithm key, VerifyingKey.keyId publicKey⟩

structure Service (K P : Type) where
  issuer : String
  lifespans : Lifespans
  keys : SigningKeys K P

abbrev Attempt (α : Type) := Logged (Except IdentityError α)

def Attempt.fail (e : IdentityError) : Attempt α := .silent (.error e)

namespace Service

-- ----- Building and rotating

def initialized (issuer : String) (keys : SigningKeys K P) : Event :=
  ⟨.info, "Token service initialized", [("issuer", .text issuer),
    ("algorithm", .text keys.algorithm.name), ("key_id", .text keys.keyId)]⟩

/-- Why a configuration and a key make no service. -/
def configFault? (c : ServiceConfig) (key : Algorithm) : Option ConfigFault :=
  match c.fault?, c.algorithm with
  | some f, _ => some f
  | none, .auto => none
  | none, .only a => if a = key then none else some (.keyMismatch a key)

def new (c : ServiceConfig) (key : K) : Attempt (Service K P) :=
  match configFault? c (SigningKey.algorithm key) with
  | some f => .fail (.configuration f)
  | none =>
    let keys := SigningKeys.ofKey key
    ⟨.ok ⟨c.issuer, c.lifespans, keys⟩, [initialized c.issuer keys]⟩

def rotated (previous keys : SigningKeys K P) : Event :=
  ⟨.info, "Signing key rotated", [("previous_key_id", .text previous.keyId),
    ("key_id", .text keys.keyId), ("algorithm", .text keys.algorithm.name)]⟩

def setKey (s : Service K P) (key : K) : Logged (Service K P) :=
  let keys := SigningKeys.ofKey key
  ⟨{ s with keys }, [rotated s.keys keys]⟩

-- ----- Issuing

/-- What an issued token says beside issuer, times and key. -/
structure Grant where
  kind : TokenKind
  subject : String
  audience : String
  scopes : String := ""
  payload : Table := .empty
  lifespan : Int64

def issued (g : Grant) : Event :=
  ⟨.debug, "Issued token", [("token_type", .text g.kind.name), ("subject", .text g.subject),
    ("audience", .text g.audience), ("lifespan", .number g.lifespan.toInt)]⟩

def claims (s : Service K P) (now : Time) (g : Grant) : Claims where
  sub := g.subject
  iss := s.issuer
  aud := g.audience
  iat := some now.toClaim
  exp := some (now.after g.lifespan)
  scopes := g.scopes
  payload := g.payload
  kind := g.kind
  kid := s.keys.keyId

def issue (s : Service K P) (now : Time) (g : Grant) : Logged Token :=
  ⟨.new (.only s.keys.algorithm) s.keys.keyId (s.claims now g), [issued g]⟩

/-- Issues what was granted, unless there is a reason not to. -/
def issueUnless (s : Service K P) (now : Time) (refusal : Option IdentityError) (g : Grant) :
    Attempt Token :=
  match refusal with
  | some e => .fail e
  | none =>
    let issued := s.issue now g
    ⟨.ok issued.result, issued.events⟩

/-- An app's own lifespan goes before the service's. -/
def lifespan (own general : Int64) : Int64 := if 0 < own then own else general

def accessGrant (s : Service K P) (user : User) (app : App) (scopes : List String) : Grant where
  kind := .access
  subject := user.id
  audience := app.id
  scopes := joinScopes scopes
  payload :=
    if app.wantsPayload payloadName then Table.empty.insert payloadName user.username else .empty
  lifespan := lifespan app.tokenLifespan s.lifespans.access

def accessRefusal? (user : User) (app : App) : Option IdentityError :=
  if ¬ app.active then some .invalidApp
  else if ¬ user.active then some .invalidUser
  else none

def newToken (s : Service K P) (now : Time) (user : User) (app : App) (scopes : List String) :
    Attempt Token :=
  s.issueUnless now (accessRefusal? user app) (s.accessGrant user app scopes)

def inviteGrant (s : Service K P) (email role : Option String) : Grant where
  kind := .invite
  subject := ""
  audience := providerAudience
  payload := .ofList
    (([("email", email), ("role", role)].filterMap fun e => e.2.map (e.1, ·)).filter (·.2 ≠ ""))
  lifespan := s.lifespans.invite

def newInviteToken (s : Service K P) (now : Time) (email role : Option String) : Attempt Token :=
  s.issueUnless now none (s.inviteGrant email role)

def resetGrant (s : Service K P) (userId : String) : Grant where
  kind := .reset
  subject := userId
  audience := providerAudience
  lifespan := s.lifespans.reset

def newResetToken (s : Service K P) (now : Time) (userId : String) : Attempt Token :=
  s.issueUnless now (if userId = "" then some .invalidUser else none) (s.resetGrant userId)

def webCookieGrant (s : Service K P) (user : User) : Grant where
  kind := .webCookie
  subject := user.id
  audience := providerAudience
  lifespan := s.lifespans.webCookie

def newWebCookieToken (s : Service K P) (now : Time) (user : User) : Attempt Token :=
  s.issueUnless now (if user.active then none else some .invalidUser) (s.webCookieGrant user)

-- ----- Signing and reading

/-- Signs a trusted token with the active key, whatever key it was issued under. -/
def string (s : Service K P) (t : Token) : Except IdentityError Bytes :=
  if t.isTrusted then (t.restamp s.keys.algorithm s.keys.keyId).sign s.keys.privateKey
  else .error (.tokenInvalid .signingUnverified)

/-- An error is reported in its context. -/
def reported (context : String) : Except IdentityError α → Attempt α
  | .ok a => .silent (.ok a)
  | .error e => ⟨.error e, [report context e]⟩

def parse (s : Service K P) (compact : Bytes) : Attempt Token :=
  reported ("parse token " ++ fingerprint compact) (Token.parseAndVerify compact s.keys.publicKey)

def validate (now : Time) (t : Token) (p : Policy) : Attempt Unit :=
  reported "validate token" (p.validate now t)

-- ----- Refresh tokens

def refreshGrant (s : Service K P) (user : User) (app : App) (scopes : List String) : Grant where
  kind := .refresh
  subject := user.id
  audience := app.id
  scopes := joinScopes scopes
  lifespan := lifespan app.refreshTokenLifespan s.lifespans.refresh

def refreshRefusal? (user : User) (app : App) (scopes : List String) : Option IdentityError :=
  if ¬ app.active ∨ ¬ app.offline then some .invalidApp
  else if ¬ user.active then some .invalidUser
  else if ¬ scopes.contains offlineScope then some .invalidOfflineScope
  else none

/-- Signs a token and saves its compact form. The storage goes by a clock of its own. -/
def store (s : Service K P) (storageNow : Time) (tokens : Storage TokenStore) (t : Token) :
    Except IdentityError SignedToken × Storage TokenStore :=
  match s.string t with
  | .error e => (.error e, tokens)
  | .ok compact =>
    match tokens.update (·.save storageNow compact) with
    | (.ok (), tokens) => (.ok ⟨t, compact⟩, tokens)
    | (.error e, tokens) => (.error (.savingToken e), tokens)

/-- A refresh token is signed and stored before it is handed out. -/
def newRefreshToken (s : Service K P) (now storageNow : Time) (tokens : Storage TokenStore)
    (user : User) (app : App) (scopes : List String) :
    Attempt SignedToken × Storage TokenStore :=
  match refreshRefusal? user app scopes with
  | some e => (.fail e, tokens)
  | none =>
    let issued := s.issue now (s.refreshGrant user app scopes)
    let stored := s.store storageNow tokens issued.result
    (⟨stored.1, issued.events⟩, stored.2)

def refreshPolicy (s : Service K P) : Policy := { issuers := [s.issuer], kind := some .refresh }

/-- A missing record is the requester's fault, an outage is not. -/
def lookUp (missing : IdentityError) : Except StorageError α → Except IdentityError α
  | .ok a => .ok a
  | .error (.notFound _) => .error missing
  | .error e => .error (.storage e)

/-- The app and the user of a refresh token, as they are now. -/
def refreshParties (s : Service K P) (now : Time) (app : String → Except StorageError App)
    (user : String → Except StorageError User) (t : Token) : Except IdentityError (App × User) := do
  s.refreshPolicy.validate now t
  let app ← lookUp .invalidApp (app t.claims.aud)
  let user ← lookUp .invalidUser (user t.claims.sub)
  .ok (app, user)

/-- A new access token with the scopes of a refresh token. -/
def refreshToken (s : Service K P) (now : Time) (app : String → Except StorageError App)
    (user : String → Except StorageError User) (t : Token) : Attempt Token :=
  match s.refreshParties now app user t with
  | .error e => .fail e
  | .ok (app, user) => s.newToken now user app t.claims.scopeList

def revoked (compact : Bytes) : Event :=
  ⟨.info, "Refresh token revoked", [("token", .text (fingerprint compact))]⟩

def revokeRefreshToken (tokens : Storage TokenStore) (compact : Bytes) :
    Attempt Unit × Storage TokenStore :=
  match tokens.update (·.delete compact) with
  | (.ok (), tokens) => (⟨.ok (), [revoked compact]⟩, tokens)
  | (.error e, tokens) => (.fail (.storage e), tokens)

def isRefreshTokenStored (tokens : Storage TokenStore) (compact : Bytes) :
    Except IdentityError Bool :=
  match tokens.ask fun s => .ok (s.has compact) with
  | .ok stored => .ok stored
  | .error e => .error (.storage e)

end Service

end IdentityProvider
