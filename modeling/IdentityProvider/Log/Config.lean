import IdentityProvider.Environment
import IdentityProvider.Json.Format
import IdentityProvider.Log.Filter
import IdentityProvider.Log.Redaction

/-!
# Configuring the log
-/

namespace IdentityProvider

open Json (Format Shape)

inductive LogFormat where
  | text
  | json
  deriving Repr, DecidableEq

structure LogConfig where
  /-- The filter, unless the environment has one. -/
  level : String := "info"
  format : LogFormat := .text
  redaction : Bool := true
  deriving Repr, DecidableEq

def LogFormat.names : List String := ["text", "json"]

def LogFormat.shape : Shape := .choice LogFormat.names

def LogFormat.view : LogFormat → Fin 2
  | text => ⟨0, Nat.two_pos⟩
  | json => ⟨1, Nat.one_lt_two⟩

def LogFormat.build : Fin 2 → LogFormat
  | 0 => text
  | 1 => json

theorem LogFormat.build_view (f : LogFormat) : build f.view = f := by
  cases f <;> rfl

namespace LogConfig

def jsonFormat : Format LogConfig where
  shape := .record "LoggerConfig" (.absentable "log_level" .string <|
    .absentable "format" LogFormat.shape <| .absentable "redaction_enabled" .flag .nil)
  view c := (some c.level, some c.format.view, some c.redaction, ())
  build
    | (level, format, redaction, ()) =>
      let default : LogConfig := {}
      ⟨level.getD default.level, (format.map .build).getD default.format,
        redaction.getD default.redaction⟩

theorem build_view (c : LogConfig) : jsonFormat.build (jsonFormat.view c) = c := by
  obtain ⟨level, format, redaction⟩ := c
  show LogConfig.mk level (.build format.view) redaction = _
  rw [LogFormat.build_view]

/-- What cannot be read is as good as missing. -/
def ofEnvironment (env : Environment) : LogConfig :=
  let default : LogConfig := {}
  { level := (env.text? "LOG_LEVEL").getD default.level
    format := if env.text? "LOG_FORMAT" = some "json" then .json else .text
    redaction := env.text? "LOG_REDACTION" ≠ some "false" }

/-- Masks the secrets in a text, if that is wanted. -/
def sanitize (c : LogConfig) (text : String) : String :=
  if c.redaction then Redactor.redact {} text else text

/-- Whether the log can be set up: with the environment's filter if that can be
read, else with the configured one. There is only one log to a process. -/
def check (c : LogConfig) (env : Environment) (installed : Bool) : Except LogError Unit :=
  let fromEnvironment := (env.text? "RUST_LOG").any fun filter => (LogFilter.check filter).isOk
  match fromEnvironment, LogFilter.check c.level with
  | false, .error f => .error (.invalidFilter f.message)
  | _, _ =>
    if installed then
      .error (.alreadyInitialized "a global default trace dispatcher has already been set")
    else .ok ()

end LogConfig

end IdentityProvider
