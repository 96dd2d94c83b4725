import IdentityProvider.Service

/-!
# Sessions

A session is a service at work: its clock, its storages with the clock of the
token storage, and the tokens and compact forms that were handed out, each under
a name. An operation changes the session and has an answer; it fails without
changing what is named. Tokens get into a session by being issued, made or read,
and in no other way.
-/

namespace IdentityProvider

/-- Values by name; the latest of a name counts. -/
abbrev Named (α : Type) := List (String × α)

def Named.get? (n : Named α) (name : String) : Option α := (n.find? fun e => e.1 = name).map (·.2)

structure Session (K P : Type) where
  service : Service K P
  now : Time
  storageNow : Time
  storages : Storages
  tokens : Named Token := []
  compacts : Named Bytes := []

/-- A compact form, given in full or by name. -/
inductive Presented where
  | text (compact : Bytes)
  | named (name : String)

/-- The operations that put a token into the session. -/
inductive Production where
  | access (user : User) (app : App) (scopes : List String)
  | refreshed (token : String)
  | invite (email role : Option String)
  | reset (userId : String)
  | webCookie (user : User)
  | made (choice : AlgorithmChoice) (kid : String) (claims : Claims)
  | parsed (compact : Presented)
  | decoded (compact : Presented)

/-- The clock of the service and that of the token storage. -/
inductive Clock where
  | service
  | storage

inductive Operation (K : Type) where
  | produce (what : Production) (name : String)
  | newRefreshToken (user : User) (app : App) (scopes : List String) (name : String)
  | string (token : String) (name : String)
  | revoke (compact : Presented)
  | isStored (compact : Presented)
  | validate (token : String) (p : Policy)
  | setKey (key : K)
  | advance (clock : Clock) (seconds : Int)
  | setTime (clock : Clock) (seconds : Int)
  | change (c : Storages.Change)

inductive OperationError where
  | identity (e : IdentityError)
  | noToken
  | noCompact
  | outOfTime

inductive Answer where
  | done
  | flag (b : Bool)
  | token (t : Token)
  | signed (t : SignedToken)
  | compact (c : Bytes)

abbrev Outcome (α : Type) := Logged (Except OperationError α)

namespace Session

variable [VerifyingKey P] [SigningKey K P]

def fail (e : OperationError) : Outcome α := .silent (.error e)

def ofAttempt (a : Attempt α) : Outcome α := ⟨a.result.mapError .identity, a.events⟩

/-- Goes on with a token that was handed out. -/
def withToken (s : Session K P) (name : String) (f : Token → Outcome α) : Outcome α :=
  match s.tokens.get? name with
  | some t => f t
  | none => fail .noToken

def compact? (s : Session K P) : Presented → Option Bytes
  | .text compact => some compact
  | .named name => s.compacts.get? name

def withCompact (s : Session K P) (p : Presented) (f : Bytes → Outcome α) : Outcome α :=
  match s.compact? p with
  | some compact => f compact
  | none => fail .noCompact

def produce (s : Session K P) : Production → Outcome Token
  | .access user app scopes => ofAttempt (s.service.newToken s.now user app scopes)
  | .refreshed token =>
    s.withToken token fun t =>
      ofAttempt (s.service.refreshToken s.now s.storages.app s.storages.user t)
  | .invite email role => ofAttempt (s.service.newInviteToken s.now email role)
  | .reset userId => ofAttempt (s.service.newResetToken s.now userId)
  | .webCookie user => ofAttempt (s.service.newWebCookieToken s.now user)
  | .made choice kid claims => .silent (.ok (.new choice kid claims))
  | .parsed compact => s.withCompact compact fun c => ofAttempt (s.service.parse c)
  | .decoded compact =>
    s.withCompact compact fun c => ofAttempt (.silent (Token.parseUnverified c))

/-- Keeps the session unless there is a result to change it by. -/
def conclude (s : Session K P) (o : Outcome α) (next : α → Session K P × Answer) :
    Session K P × Outcome Answer :=
  match o.result with
  | .error e => (s, ⟨.error e, o.events⟩)
  | .ok a => ((next a).1, ⟨.ok (next a).2, o.events⟩)

def nameToken (s : Session K P) (name : String) (t : Token) : Session K P :=
  { s with tokens := (name, t) :: s.tokens }

def nameCompact (s : Session K P) (name : String) (c : Bytes) : Session K P :=
  { s with compacts := (name, c) :: s.compacts }

def setTokens (s : Session K P) (tokens : Storage TokenStore) : Session K P :=
  { s with storages.tokens := tokens }

def time (s : Session K P) : Clock → Time
  | .service => s.now
  | .storage => s.storageNow

def setClock (s : Session K P) : Clock → Time → Session K P
  | .service, now => { s with now }
  | .storage, storageNow => { s with storageNow }

def step (s : Session K P) : Operation K → Session K P × Outcome Answer
  | .produce what name =>
    s.conclude (s.produce what) fun t => (s.nameToken name t, .token t)
  | .newRefreshToken user app scopes name =>
    let granted :=
      s.service.newRefreshToken s.now s.storageNow s.storages.tokens user app scopes
    let s := s.setTokens granted.2
    s.conclude (ofAttempt granted.1) fun r =>
      ((s.nameToken name r.token).nameCompact name r.compact, .signed r)
  | .string token name =>
    s.conclude (s.withToken token fun t => ofAttempt (.silent (s.service.string t)))
      fun c => (s.nameCompact name c, .compact c)
  | .revoke presented =>
    match s.compact? presented with
    | none => (s, fail .noCompact)
    | some compact =>
      let revoked := Service.revokeRefreshToken s.storages.tokens compact
      let s := s.setTokens revoked.2
      s.conclude (ofAttempt revoked.1) fun () => (s, .done)
  | .isStored compact =>
    s.conclude (s.withCompact compact fun c =>
      ofAttempt (.silent (Service.isRefreshTokenStored s.storages.tokens c))) fun b => (s, .flag b)
  | .validate token p =>
    s.conclude (s.withToken token fun t => ofAttempt (Service.validate s.now t p))
      fun _ => (s, .done)
  | .setKey key =>
    let rotated := s.service.setKey key
    ({ s with service := rotated.result }, ⟨.ok .done, rotated.events⟩)
  | .advance clock seconds =>
    match (s.time clock).advance? seconds with
    | some time => (s.setClock clock time, .silent (.ok .done))
    | none => (s, fail .outOfTime)
  | .setTime clock seconds => (s.setClock clock (.ofSeconds seconds), .silent (.ok .done))
  | .change c => ({ s with storages := s.storages.apply c }, .silent (.ok .done))

/-- The session after some operations, one after the other. -/
def run (s : Session K P) (os : List (Operation K)) : Session K P :=
  os.foldl (fun s o => (s.step o).1) s

end Session

end IdentityProvider
