import IdentityProvider.Environment
import IdentityProvider.Error.Identity
import IdentityProvider.Json.Format
import IdentityProvider.Text.Blank

/-!
# Configuring the token service

The issuer's name, the key and how long tokens of each kind are valid. It comes
as JSON or from the environment; what is missing has a default.
-/

namespace IdentityProvider

open Json (Format Members Shape)

-- ----- Lifespans

/-- Seconds, for each kind of token. -/
structure Lifespans where
  access : Int64 := 7 * 24 * 60 * 60
  refresh : Int64 := 365 * 24 * 60 * 60
  invite : Int64 := 60 * 60
  reset : Int64 := 2 * 60 * 60
  webCookie : Int64 := 2 * 24 * 60 * 60
  deriving DecidableEq

namespace Lifespans

def ofKind (l : Lifespans) : TokenKind → Int64
  | .access => l.access
  | .refresh => l.refresh
  | .invite => l.invite
  | .reset => l.reset
  | .webCookie => l.webCookie

def shape : Shape :=
  .record "TokenLifespans" (.absentable "access" (.integer .int64) <|
    .absentable "refresh" (.integer .int64) <| .absentable "invite" (.integer .int64) <|
    .absentable "reset" (.integer .int64) <| .absentable "web_cookie" (.integer .int64) .nil)

def view (l : Lifespans) : shape.Value :=
  (some l.access, some l.refresh, some l.invite, some l.reset, some l.webCookie, ())

def build : shape.Value → Lifespans
  | (access, refresh, invite, reset, webCookie, ()) =>
    let default : Lifespans := {}
    ⟨access.getD default.access, refresh.getD default.refresh, invite.getD default.invite,
      reset.getD default.reset, webCookie.getD default.webCookie⟩

theorem build_view (l : Lifespans) : build l.view = l := rfl

/-- The first kind whose lifespan is not positive. -/
def fault? (l : Lifespans) : Option TokenKind := TokenKind.all.find? fun k => l.ofKind k ≤ 0

end Lifespans

-- ----- The configuration

structure ServiceConfig where
  issuer : String := "identifo"
  algorithm : AlgorithmChoice := .auto
  privateKeyPath : Option String := none
  lifespans : Lifespans := {}
  deriving DecidableEq

def AlgorithmChoice.shape : Shape := .choice AlgorithmChoice.names

def AlgorithmChoice.view : AlgorithmChoice → Fin 3
  | only .es256 => 0
  | only .rs256 => 1
  | auto => 2

def AlgorithmChoice.build : Fin 3 → AlgorithmChoice
  | 0 => only .es256
  | 1 => only .rs256
  | 2 => auto

theorem AlgorithmChoice.build_view (c : AlgorithmChoice) : build c.view = c := by
  rcases c with _ | a
  · rfl
  · cases a <;> rfl

namespace ServiceConfig

def format : Format ServiceConfig where
  shape := .record "TokenServiceConfig" (.absentable "issuer" .string <|
    .absentable "algorithm" AlgorithmChoice.shape <|
    .absentable "private_key_path" (.optional (.text "path string")) <|
    .absentable "lifespans" Lifespans.shape .nil)
  view c := (some c.issuer, some c.algorithm.view, some c.privateKeyPath, some c.lifespans.view, ())
  build
    | (issuer, algorithm, privateKeyPath, lifespans, ()) =>
      let default : ServiceConfig := {}
      ⟨issuer.getD default.issuer, (algorithm.map .build).getD default.algorithm,
        privateKeyPath.join, (lifespans.map Lifespans.build).getD default.lifespans⟩

theorem build_view (c : ServiceConfig) : format.build (format.view c) = c := by
  obtain ⟨issuer, algorithm, privateKeyPath, lifespans⟩ := c
  show ServiceConfig.mk issuer (.build algorithm.view) privateKeyPath (.build lifespans.view) = _
  rw [AlgorithmChoice.build_view, Lifespans.build_view]

def fault? (c : ServiceConfig) : Option ConfigFault :=
  if Text.isBlankText c.issuer then some .emptyIssuer
  else c.lifespans.fault?.map fun k => .lifespan k (c.lifespans.ofKind k)

def validate (c : ServiceConfig) : Except IdentityError Unit :=
  match c.fault? with
  | some f => .error (.configuration f)
  | none => .ok ()

-- ----- From the environment

def algorithmSetting (env : Environment) : Except IdentityError AlgorithmChoice :=
  match env.text? "IDENTITY_SIGNING_ALGORITHM" with
  | none => .ok .auto
  | some name =>
    match AlgorithmChoice.ofName? name with
    | some choice => .ok choice
    | none => .error (.crypto (.unsupportedSignatureAlgorithm (.unknownName name)))

def seconds (env : Environment) (name : String) (default : Int64) : Except IdentityError Int64 := do
  let value ← env.read name Decimal.int64? fun text =>
    IdentityError.configuration (.notSeconds name text)
  .ok (value.getD default)

def ofEnvironment (env : Environment) : Except IdentityError ServiceConfig := do
  let default : ServiceConfig := {}
  let algorithm ← algorithmSetting env
  let access ← seconds env "IDENTITY_ACCESS_TOKEN_LIFESPAN" default.lifespans.access
  let refresh ← seconds env "IDENTITY_REFRESH_TOKEN_LIFESPAN" default.lifespans.refresh
  let invite ← seconds env "IDENTITY_INVITE_TOKEN_LIFESPAN" default.lifespans.invite
  let reset ← seconds env "IDENTITY_RESET_TOKEN_LIFESPAN" default.lifespans.reset
  let webCookie ← seconds env "IDENTITY_WEB_COOKIE_TOKEN_LIFESPAN" default.lifespans.webCookie
  let config : ServiceConfig :=
    { issuer := (env.text? "IDENTITY_ISSUER").getD default.issuer
      algorithm
      privateKeyPath := env.text? "IDENTITY_PRIVATE_KEY_PATH"
      lifespans := ⟨access, refresh, invite, reset, webCookie⟩ }
  config.validate
  .ok config

end ServiceConfig

end IdentityProvider
