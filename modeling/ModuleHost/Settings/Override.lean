import ModuleHost.Settings.Basic
import ModuleHost.Text.Numeral

/-!
# Overrides

Environment variables and command-line flags that win over the configuration file. Switches can only
turn something on.

* `Overrides.ofEnvironment`: reading the variables, with the first one that makes no sense.
* `Overrides.merge`, `Overrides.apply`: the command line over the environment, both over settings.
-/

namespace ModuleHost

/-- What the process was started with, beside its configuration file. -/
structure Overrides where
  port : Option UInt16 := none
  checkPort : Bool := false
  mode : Option RunMode := none
  enableHttps : Bool := false
  enableAlt : Bool := false
  logAsync : Bool := false
  logImmediateFlush : Bool := false
  deriving DecidableEq, Inhabited

/-- A variable whose value makes no sense. -/
structure InvalidOverride where
  key : String
  value : String
  deriving DecidableEq, Inhabited

namespace Overrides

/-- Values of environment variables. -/
abbrev Environment := String → Option String

def portKey : String := "PLUGHOST_SERVER_PORT"
def modeKey : String := "PLUGHOST_SERVER_MODE"
def checkPortKey : String := "PLUGHOST_CHECK_PORT"
def enableHttpsKey : String := "PLUGHOST_ENABLE_HTTPS"
def enableAltKey : String := "PLUGHOST_ENABLE_ALT"
def logAsyncKey : String := "PLUGHOST_LOG_ASYNC"
def logImmediateFlushKey : String := "PLUGHOST_LOG_IMMEDIATE_FLUSH"

/-- Read a variable with the blanks around its value dropped. One that is absent or blank counts as
not given; one that cannot be read is an error that shows the value as it stands. -/
def readWith {α : Type} (read : String → Option α) (env : Environment) (key : String) :
    Except InvalidOverride (Option α) :=
  match env key with
  | none => .ok none
  | some value =>
    if (Text.trim value).isEmpty then .ok none
    else
      match read (Text.trim value) with
      | some a => .ok (some a)
      | none => .error ⟨key, value⟩

/-- A switch is on when its variable says `true`. -/
def switch (env : Environment) (key : String) : Bool :=
  match env key with
  | none => false
  | some value => Text.sameLetters (Text.trim value) "true"

/-- **Overrides of an environment.** The port is read before the mode. -/
def ofEnvironment (env : Environment) : Except InvalidOverride Overrides := do
  let port ← readWith Text.Numeral.port? env portKey
  let mode ← readWith RunMode.parse? env modeKey
  return {
    port, mode
    checkPort := switch env checkPortKey
    enableHttps := switch env enableHttpsKey
    enableAlt := switch env enableAltKey
    logAsync := switch env logAsyncKey
    logImmediateFlush := switch env logImmediateFlushKey }

/-- **The second over the first**: its port and mode win, switches add up. -/
def merge (base top : Overrides) : Overrides where
  port := top.port <|> base.port
  checkPort := base.checkPort || top.checkPort
  mode := top.mode <|> base.mode
  enableHttps := base.enableHttps || top.enableHttps
  enableAlt := base.enableAlt || top.enableAlt
  logAsync := base.logAsync || top.logAsync
  logImmediateFlush := base.logImmediateFlush || top.logImmediateFlush

/-- The logging section with the switches that concern it turned on. -/
def applyLogging (logAsync logImmediateFlush : Bool) (l : Settings.Logging) : Settings.Logging :=
  { l with
    async := { l.async with enabled := l.async.enabled || logAsync }
    file := { l.file with immediateFlush := l.file.immediateFlush || logImmediateFlush } }

/-- **Settings with the overrides in them.** The port stays out: whoever opens the listener picks
it, so that the choice can be reported. -/
def apply (o : Overrides) (s : Settings) : Settings :=
  { s with
    server := { s.server with
      mode := o.mode.getD s.server.mode
      checkPort := s.server.checkPort || o.checkPort }
    https := { s.https with enabled := s.https.enabled || o.enableHttps }
    alternate := { s.alternate with enabled := s.alternate.enabled || o.enableAlt }
    logging := applyLogging o.logAsync o.logImmediateFlush s.logging }

end Overrides

end ModuleHost
