import ModuleHost.Lifecycle.Boot
import ModuleHost.Observability.Exporter
import ModuleHost.Program.Arguments
import ModuleHost.Toml.Document

/-!
# The program

From the arguments to the exit status.

* `Program.launch`: either the program ends at once, or it serves.
* `Program.stop`: what a signal leads to.
-/

namespace ModuleHost

/-- A signal that asks the program to end. -/
inductive Signal where
  | interrupt
  | terminate
  deriving DecidableEq, Inhabited

def Signal.name : Signal → String
  | interrupt => "SIGINT"
  | terminate => "SIGTERM"

/-- **The program at work**: it has ended with a status, or it serves. -/
inductive Program where
  | ended (status : UInt8) (m : Machine)
  | serving (r : RunningHost)

namespace Program

/-- The name and the version of the program. -/
def version : String := "0.1.0"

/-- What the program says about itself. -/
def helpText : String :=
  String.intercalate "\n" [
    "Pluggable module host", "", "Usage: plughost [OPTIONS]", "", "Options:",
    "  -c, --config <CONFIG>  Configuration file; missing means defaults [default: plughost.toml]",
    "  -p, --port <PORT>      Listener port, overrides server.port",
    "      --check-port       Fail fast when the port is already bound",
    "      --mode <MODE>      Run mode (dev or prod)",
    "      --https            Enable the HTTPS listener",
    "      --alt              Enable the alternate plaintext listener",
    "      --log-async        Route file logging through the async queue",
    "  -h, --help             Print help",
    "  -V, --version          Print version", ""]

/-- What is said about arguments that make no sense. -/
def misuseText (argument : String) : String :=
  s!"error: unexpected argument '{argument}'\n\nFor more information, try '--help'.\n"

/-- The exit status after a failed boot, as the system keeps it. -/
def failureStatus : UInt8 :=
  (BootError.exitCode % 256).toNat.toUInt8

/-- The exit status after arguments that make no sense. -/
def misuseStatus : UInt8 := 2

/-- What is written when the arguments lead to no run. -/
def decline (m : Machine) : NoRun → Program
  | .help => ended 0 { m with stdout := m.stdout ++ Text.Utf8.encode helpText }
  | .version => ended 0 { m with stdout := m.stdout ++ Text.Utf8.encode s!"plughost {version}\n" }
  | .misuse argument =>
    ended misuseStatus { m with stderr := m.stderr ++ Text.Utf8.encode (misuseText argument) }

/-- End before there is anything to log with. -/
def refuse (m : Machine) (e : BootError) : Program :=
  ended failureStatus (m.complain e.message)

/-- End after a failed boot: it is logged, and logging stops. -/
def fail (b : Logbook) (e : BootError) : Program :=
  ended failureStatus ((b.emit ⟨.error, "plughost", "Host failed to start",
    [("error", .shown e.message)]⟩).stop).machine

/-- Settings with what wins over them. The environment is read before the file. -/
def configure (i : Invocation) (env : Overrides.Environment) (d : Disk) :
    Except BootError (Settings × Overrides) := do
  let given ← (Overrides.ofEnvironment env).mapError .environment
  let overrides := given.merge i.overrides
  let settings ← (Settings.loadOrDefault Toml.Document.parse? d i.config).mapError .config
  return (overrides.apply settings, overrides)

/-- Watch the configuration file, if there is one. -/
def watch (path : String) (b : Logbook) : Logbook :=
  if b.machine.disk.exists? path then
    b.emit ⟨.info, Settings.watcherTarget, "Config watcher started",
      [("path", .shown (Text.quoted path))]⟩
  else b

/-- Boot with logging at work. -/
def run (i : Invocation) (s : Settings) (o : Overrides) (processors : Nat) (bootId : String)
    (b : Logbook) : Program :=
  let b := b.emit ⟨.info, "plughost", "plughost starting",
    [("version", .text version), ("mode", .shown s.server.mode.label)]⟩
  let b := ({ settings := s, port := o.port : Http.Provisioner }.workerPool processors b).2
  let b := watch i.config (b.startExporter s.observability)
  let h : Host :=
    { settings := s
      bootId := bootId
      book := b
      framework := { modules := [.console s.console.route] } }
  match h.boot o.port Host.defaultHooks with
  | .error (e, h) => fail h.book e
  | .ok r => serving r

/-- **Launch the program** with its arguments in an environment. -/
def launch (args : List String) (env : Overrides.Environment) (processors : Nat) (bootId : String)
    (m : Machine) : Program :=
  match Invocation.parse args with
  | .error e => decline m e
  | .ok i =>
    match configure i env m.disk with
    | .error e => refuse m e
    | .ok (s, o) =>
      let b : Logbook := { machine := m, registry := .new s.logging }
      match b.route.init with
      | (.error e, b) => refuse b.machine (.registry e)
      | (.ok (), b) => run i s o processors bootId b

/-- Whether an end of a group of hexadecimal digits stands before the byte of this number. -/
def startsGroup (i : Nat) : Bool :=
  i == 4 || i == 6 || i == 8 || i == 10

/-- **The number of a boot as text**, made of sixteen random bytes: two of them also say that the
number is random. -/
def bootIdText (bytes : List UInt8) : String :=
  let digit (n : UInt8) := Nat.toDigits 16 n.toNat
  let digits (b : UInt8) := String.ofList (digit (b / 16) ++ digit (b % 16))
  String.join (bytes.mapIdx (fun i b =>
    let b := if i == 6 then b % 16 + 64 else if i == 8 then b % 64 + 128 else b
    if startsGroup i then "-" ++ digits b else digits b))

/-- **Stop a host that serves**, for a signal. -/
def stop (r : RunningHost) (signal : Signal) : UInt8 × RunningHost :=
  let host := r.host.report ⟨.info, "plughost::lifecycle::signals", "Shutdown signal received",
    [("signal", .text signal.name)]⟩
  let r := { r with host }.beginShutdown
  (0, (r.finishShutdown (r.host.settings.server.shutdownGraceSecs * 1000)).2)

end Program

end ModuleHost
