import ModuleHost.Logging.Event
import ModuleHost.Settings.Check
import ModuleHost.Settings.Override
import ModuleHost.Settings.Reader
import ModuleHost.Storage.Disk
import ModuleHost.Text.Utf8
import ModuleHost.Toml.Value

/-!
# Loading and reloading settings

* `Settings.parse`, `Settings.load`, `Settings.loadOrDefault`: settings that were read and checked.
* `Settings.reload`: what a new content of the watched file changes. Only the logging section can be
  reloaded.
-/

namespace ModuleHost

/-- Why settings could not be loaded. -/
inductive LoadError where
  | unreadable (e : SystemError)
  | malformed
  | invalid (problems : List Problem)
  deriving DecidableEq, Inhabited

def LoadError.message : LoadError → String
  | unreadable e => s!"IO error: {e.message}"
  | malformed => "Parse error"
  | invalid ps => "Validation failed: " ++ String.intercalate ", " (ps.map Problem.text)

def InvalidOverride.message (o : InvalidOverride) : String :=
  s!"Invalid override {o.key}={o.value}"

namespace Settings

/-- **Settings from the text of a configuration file.** -/
def parse (toml : Toml.Reader) (text : String) : Except LoadError Settings :=
  match (toml text).bind ofEntries? with
  | none => .error .malformed
  | some s => if s.problems = [] then .ok s else .error (.invalid s.problems)

/-- **Settings from a file.** -/
def load (toml : Toml.Reader) (d : Disk) (path : String) : Except LoadError Settings :=
  match d.read path with
  | .error e => .error (.unreadable e)
  | .ok bytes =>
    match Text.Utf8.decode? bytes with
    | none => .error (.unreadable (.invalidData "stream did not contain valid UTF-8"))
    | some text => parse toml text

/-- Settings from a file if there is one, else the defaults. -/
def loadOrDefault (toml : Toml.Reader) (d : Disk) (path : String) : Except LoadError Settings :=
  if d.exists? path then load toml d path else .ok {}

/-- The target of what the watcher of the configuration file reports. -/
def watcherTarget : String := "plughost::config::watcher"

/-- The logging section of new settings, with the switches that are on in the settings in effect. -/
def keepSwitches (current new : Logging) : Logging :=
  Overrides.applyLogging current.async.enabled current.file.immediateFlush new

/-- **The logging section to send** for a new content, if it differs from the one in effect. Another spelling of
the same path is no difference. -/
def loggingUpdate? (current new : Logging) : Option Logging :=
  let l := keepSwitches current new
  if l.Same current then none else some l

/-- Whether new settings differ outside the logging section. -/
def changesRest (current new : Settings) : Bool :=
  !decide (Same { new with logging := current.logging } current)

/-- What a new content of the watched file leads to. -/
structure Reload where
  /-- The settings in effect afterwards. -/
  current : Settings
  /-- The logging section that was sent, if one was. -/
  sent : Option Logging
  events : List LogEvent

/-- **A new content of the watched file.** One that cannot be loaded changes nothing. -/
def reload (current : Settings) (loaded : Except LoadError Settings) : Reload :=
  match loaded with
  | .error e =>
    ⟨current, none, [⟨.error, watcherTarget,
      "Failed to reload config, keeping current configuration", [("error", .shown e.message)]⟩]⟩
  | .ok new =>
    let warning :=
      if changesRest current new then
        [⟨.warn, watcherTarget,
          "Only the logging section is reloaded; other changes apply after restart", []⟩]
      else []
    -- of the new settings only the logging section goes into effect
    match loggingUpdate? current.logging new.logging with
    | none => ⟨current, none, warning⟩
    | some l =>
      ⟨{ current with logging := l }, some l, warning ++
        [⟨.info, watcherTarget, "Logging configuration changed, scheduling reset", []⟩]⟩

end Settings

end ModuleHost
