import ModuleHost.Settings.Basic
import ModuleHost.Toml.Value

/-!
# Settings as a document

The document that says every setting, so that reading it back needs no default.

* `Settings.toEntries`, `Settings.Logging.toValue`.
-/

namespace ModuleHost

open Toml (Value)

def ConsoleStream.name : ConsoleStream → String
  | .stdout => "stdout"
  | .stderr => "stderr"

def Rotation.name : Rotation → String
  | .daily => "daily"
  | .hourly => "hourly"
  | .minutely => "minutely"

namespace Settings

def ofPort (p : UInt16) : Value := .integer p.toNat

def ofCount (n : Nat) : Value := .integer n

def ofTexts (xs : List String) : Value := .list (xs.map .text)

def Server.toValue (s : Server) : Value :=
  .table [("mode", .text s.mode.name), ("host", .text s.host), ("port", ofPort s.port),
    ("check_port", .flag s.checkPort), ("shutdown_grace_secs", ofCount s.shutdownGraceSecs),
    ("server_header", .text s.serverHeader), ("powered_by_header", .text s.poweredByHeader)]

def Https.toValue (h : Https) : Value :=
  .table [("enabled", .flag h.enabled), ("host", .text h.host), ("port", ofPort h.port),
    ("cert_path", .text h.certPath), ("key_path", .text h.keyPath)]

def Alternate.toValue (a : Alternate) : Value :=
  .table [("enabled", .flag a.enabled), ("host", .text a.host), ("port", ofPort a.port)]

def Workers.toValue (w : Workers) : Value :=
  .table [("core_threads", ofCount w.coreThreads), ("max_threads", ofCount w.maxThreads)]

def Pipeline.toValue (p : Pipeline) : Value :=
  .table [("allowed_methods", ofTexts p.allowedMethods),
    ("max_concurrent_requests", ofCount p.maxConcurrentRequests)]

def Console.toValue (c : Console) : Value :=
  .table [("route", .text c.route), ("redirect_paths", ofTexts c.redirectPaths)]

def ConsoleOutput.toValue (c : ConsoleOutput) : Value :=
  .table [("target", .text c.target.name), ("ansi", .flag c.ansi)]

def FileOutput.toValue (f : FileOutput) : Value :=
  .table [("path", .text f.path), ("max_size", .text f.maxSize),
    ("max_history", ofCount f.maxHistory), ("rotation", .text f.rotation.name),
    ("immediate_flush", .flag f.immediateFlush)]

def AsyncOutput.toValue (a : AsyncOutput) : Value :=
  .table [("enabled", .flag a.enabled), ("queue_size", ofCount a.queueSize),
    ("discard_threshold", ofCount a.discardThreshold)]

def Logger.toValue (l : Logger) : Value :=
  .table [("name", .text l.name), ("level", .text l.level), ("additive", .flag l.additive)]

/-- **The logging section in full.** -/
def Logging.toValue (l : Logging) : Value :=
  .table [("root_level", .text l.rootLevel), ("console", l.console.toValue),
    ("file", l.file.toValue), ("async", l.async.toValue),
    ("loggers", .list (l.loggers.map Logger.toValue))]

/-- **The document with every setting.** -/
def toEntries (s : Settings) : List (String × Value) :=
  [("server", s.server.toValue), ("https", s.https.toValue), ("alt", s.alternate.toValue),
    ("workers", s.workers.toValue), ("pipeline", s.pipeline.toValue),
    ("console", s.console.toValue), ("logging", s.logging.toValue),
    ("modules", .table [("root_dir", .text s.modules.rootDir)]),
    ("observability", .table [("metrics_enabled", .flag s.observability.metricsEnabled),
      ("metrics_address", .text s.observability.metricsAddress)])]

end Settings

end ModuleHost
