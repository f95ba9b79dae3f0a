import ModuleHost.Storage.Path
import ModuleHost.Text.Blank

/-!
# Host settings

Everything that a host can be configured with, one structure per section, with the value that each
setting has when nothing is said. Sizes and counts are below `2 ^ 64`; the reader of the
configuration file sees to that.

* `RunMode.parse?`: the names of the two run modes.
* `Settings.Same`, `Settings.Logging.Same`: settings that count as equal. Of a path only the components count.
-/

namespace ModuleHost

/-- How a host runs: development shows itself in response headers, production sizes its worker pool
by the machine. -/
inductive RunMode where
  | dev
  | prod
  deriving DecidableEq, Inhabited

namespace RunMode

/-- The mode in capitals, as log records show it. -/
def label : RunMode → String
  | .dev => "DEV"
  | .prod => "PROD"

/-- The mode in lower case, as the configuration file spells it. -/
def name : RunMode → String
  | .dev => "dev"
  | .prod => "prod"

/-- **Reading a mode** from the command line or the environment: short or long name, in any ASCII
case. -/
def parse? (s : String) : Option RunMode :=
  if Text.sameLetters s "prod" || Text.sameLetters s "production" then some .prod
  else if Text.sameLetters s "dev" || Text.sameLetters s "development" then some .dev
  else none

/-- What is said about a text that names no mode. -/
def unknownText (s : String) : String :=
  s!"unknown server mode: {s}"

end RunMode

/-- The stream that console records go to. -/
inductive ConsoleStream where
  | stdout
  | stderr
  deriving DecidableEq, Inhabited

/-- How often a log file rolls over by the clock. -/
inductive Rotation where
  | daily
  | hourly
  | minutely
  deriving DecidableEq, Inhabited

namespace Settings

/-- The main listener and what concerns the host as a whole. -/
structure Server where
  mode : RunMode := .dev
  host : String := "0.0.0.0"
  port : UInt16 := 8080
  /-- Try to bind the port before anything else starts. -/
  checkPort : Bool := false
  /-- Seconds that a shutdown waits for requests that are still inside. -/
  shutdownGraceSecs : Nat := 30
  /-- Value of the `Server` header in development. -/
  serverHeader : String := "plughost"
  /-- Value of the `X-Powered-By` header in development. -/
  poweredByHeader : String := "plughost"
  deriving DecidableEq, Inhabited

/-- The TLS listener. -/
structure Https where
  enabled : Bool := false
  host : String := "0.0.0.0"
  port : UInt16 := 8443
  certPath : String := "tls/cert.pem"
  keyPath : String := "tls/key.pem"
  deriving DecidableEq, Inhabited

/-- The plaintext listener for a proxy in front. -/
structure Alternate where
  enabled : Bool := false
  host : String := "127.0.0.1"
  port : UInt16 := 8009
  deriving DecidableEq, Inhabited

/-- The worker pool as configured. -/
structure Workers where
  coreThreads : Nat := 64
  maxThreads : Nat := 128
  deriving DecidableEq, Inhabited

/-- The request pipeline. -/
structure Pipeline where
  allowedMethods : List String := ["GET", "POST", "PUT", "DELETE", "PATCH", "HEAD", "OPTIONS"]
  maxConcurrentRequests : Nat := 1000
  deriving DecidableEq, Inhabited

/-- The administrative console. -/
structure Console where
  route : String := "/system/console"
  redirectPaths : List String := ["/", "/admin"]
  deriving DecidableEq, Inhabited

/-- Console records. -/
structure ConsoleOutput where
  target : ConsoleStream := .stdout
  ansi : Bool := true
  deriving DecidableEq, Inhabited

/-- The rolling log file. -/
structure FileOutput where
  path : String := "logs/plughost.log"
  maxSize : String := "10MB"
  maxHistory : Nat := 30
  rotation : Rotation := .daily
  immediateFlush : Bool := false
  deriving DecidableEq, Inhabited

/-- The queue in front of the log file. -/
structure AsyncOutput where
  enabled : Bool := false
  queueSize : Nat := 1024
  /-- With fewer free slots than this, records up to `info` are shed. -/
  discardThreshold : Nat := 200
  deriving DecidableEq, Inhabited

/-- A logger that the host itself configures. -/
structure Logger where
  name : String
  level : String
  additive : Bool := false
  deriving DecidableEq, Inhabited

/-- The logging section, the one that can be reloaded. -/
structure Logging where
  rootLevel : String := "info"
  console : ConsoleOutput := {}
  file : FileOutput := {}
  async : AsyncOutput := {}
  loggers : List Logger := [{ name := "plughost", level := "info" }]
  deriving DecidableEq, Inhabited

/-- Where modules keep their files. -/
structure Modules where
  rootDir : String := "modules"
  deriving DecidableEq, Inhabited

/-- The metrics endpoint. -/
structure Observability where
  metricsEnabled : Bool := false
  metricsAddress : String := "127.0.0.1:9090"
  deriving DecidableEq, Inhabited

end Settings

/-- **All settings of a host.** -/
structure Settings where
  server : Settings.Server := {}
  https : Settings.Https := {}
  alternate : Settings.Alternate := {}
  workers : Settings.Workers := {}
  pipeline : Settings.Pipeline := {}
  console : Settings.Console := {}
  logging : Settings.Logging := {}
  modules : Settings.Modules := {}
  observability : Settings.Observability := {}
  deriving DecidableEq, Inhabited

/-! ### Settings that count as equal -/

namespace Settings

/-- The paths have the same components, and all else is equal. -/
def Https.Same (h h' : Https) : Prop :=
  Path.components h.certPath = Path.components h'.certPath ∧
    Path.components h.keyPath = Path.components h'.keyPath ∧
    { h with certPath := "", keyPath := "" } = { h' with certPath := "", keyPath := "" }

/-- The paths have the same components, and all else is equal. -/
def FileOutput.Same (f f' : FileOutput) : Prop :=
  Path.components f.path = Path.components f'.path ∧ { f with path := "" } = { f' with path := "" }

/-- **Logging sections that count as equal.** -/
def Logging.Same (l l' : Logging) : Prop :=
  l.file.Same l'.file ∧ { l with file := {} } = { l' with file := {} }

/-- The paths have the same components. -/
def Modules.Same (m m' : Modules) : Prop :=
  Path.components m.rootDir = Path.components m'.rootDir

/-- **Settings that count as equal.** -/
def Same (s s' : Settings) : Prop :=
  s.https.Same s'.https ∧ s.logging.Same s'.logging ∧ s.modules.Same s'.modules ∧
    { s with https := {}, logging := {}, modules := {} } = { s' with https := {}, logging := {}, modules := {} }

instance (h h' : Https) : Decidable (h.Same h') :=
  inferInstanceAs (Decidable (_ ∧ _ ∧ _))

instance (f f' : FileOutput) : Decidable (f.Same f') :=
  inferInstanceAs (Decidable (_ ∧ _))

instance (l l' : Logging) : Decidable (l.Same l') :=
  inferInstanceAs (Decidable (_ ∧ _))

instance (m m' : Modules) : Decidable (m.Same m') :=
  inferInstanceAs (Decidable (_ = _))

instance (s s' : Settings) : Decidable (s.Same s') :=
  inferInstanceAs (Decidable (_ ∧ _ ∧ _ ∧ _))

end Settings

end ModuleHost
