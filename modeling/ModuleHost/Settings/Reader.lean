import ModuleHost.Settings.Basic
import ModuleHost.Toml.Value

/-!
# Settings from a configuration document

A section may be given as a table by name or as a list by position; what is not given keeps its
default, and what is not known is passed over.

* `Settings.ofEntries?`: the settings that a document gives, nothing if one has the wrong kind.
-/

namespace ModuleHost.Settings

open Toml (Value)

/-- What a section says about its settings, by name. -/
abbrev Fields := String → Option Value

/-- **The section that a value gives**: a table by name, a list by the order of the names. A date
gives a section that says nothing. -/
def fieldsOf? (names : List String) : Value → Option Fields
  | .table es => some (Toml.entry? es)
  | .list vs => some (Toml.entry? (names.zip vs))
  | .moment _ => some (fun _ => none)
  | _ => none

/-- Read a setting, or keep its default. -/
def orDefault {α : Type} (fields : Fields) (name : String) (fallback : α) (read : Value → Option α) :
    Option α :=
  match fields name with
  | none => some fallback
  | some v => read v

def text? : Value → Option String
  | .text s => some s
  | _ => none

def flag? : Value → Option Bool
  | .flag b => some b
  | _ => none

/-- A size or a count. -/
def count? : Value → Option Nat
  | .integer n => if 0 ≤ n ∧ n < UInt64.size then some n.toNat else none
  | _ => none

def port? : Value → Option UInt16
  | .integer n => if 0 ≤ n ∧ n < UInt16.size then some n.toNat.toUInt16 else none
  | _ => none

def texts? : Value → Option (List String)
  | .list vs => vs.mapM text?
  | _ => none

/-- One of several named choices: its name as a text, or as the only key of a table with nothing in
it. -/
def choice? {α : Type} (choices : List (String × α)) : Value → Option α
  | .text s => pick s
  | .table [(s, .table [])] => pick s
  | .table [(s, .list [])] => pick s
  | _ => none
where
  pick (s : String) : Option α :=
    (choices.find? (fun c => c.1 == s)).map (·.2)

def mode? : Value → Option RunMode :=
  choice? [("dev", .dev), ("prod", .prod)]

def stream? : Value → Option ConsoleStream :=
  choice? [("stdout", .stdout), ("stderr", .stderr)]

def rotation? : Value → Option Rotation :=
  choice? [("daily", .daily), ("hourly", .hourly), ("minutely", .minutely)]

def Server.ofValue? (v : Value) : Option Server := do
  let s ← fieldsOf? ["mode", "host", "port", "check_port", "shutdown_grace_secs", "server_header",
    "powered_by_header"] v
  let d : Server := {}
  return {
    mode := ← orDefault s "mode" d.mode mode?
    host := ← orDefault s "host" d.host text?
    port := ← orDefault s "port" d.port port?
    checkPort := ← orDefault s "check_port" d.checkPort flag?
    shutdownGraceSecs := ← orDefault s "shutdown_grace_secs" d.shutdownGraceSecs count?
    serverHeader := ← orDefault s "server_header" d.serverHeader text?
    poweredByHeader := ← orDefault s "powered_by_header" d.poweredByHeader text? }

def Https.ofValue? (v : Value) : Option Https := do
  let s ← fieldsOf? ["enabled", "host", "port", "cert_path", "key_path"] v
  let d : Https := {}
  return {
    enabled := ← orDefault s "enabled" d.enabled flag?
    host := ← orDefault s "host" d.host text?
    port := ← orDefault s "port" d.port port?
    certPath := ← orDefault s "cert_path" d.certPath text?
    keyPath := ← orDefault s "key_path" d.keyPath text? }

def Alternate.ofValue? (v : Value) : Option Alternate := do
  let s ← fieldsOf? ["enabled", "host", "port"] v
  let d : Alternate := {}
  return {
    enabled := ← orDefault s "enabled" d.enabled flag?
    host := ← orDefault s "host" d.host text?
    port := ← orDefault s "port" d.port port? }

def Workers.ofValue? (v : Value) : Option Workers := do
  let s ← fieldsOf? ["core_threads", "max_threads"] v
  let d : Workers := {}
  return {
    coreThreads := ← orDefault s "core_threads" d.coreThreads count?
    maxThreads := ← orDefault s "max_threads" d.maxThreads count? }

def Pipeline.ofValue? (v : Value) : Option Pipeline := do
  let s ← fieldsOf? ["allowed_methods", "max_concurrent_requests"] v
  let d : Pipeline := {}
  return {
    allowedMethods := ← orDefault s "allowed_methods" d.allowedMethods texts?
    maxConcurrentRequests :=
      ← orDefault s "max_concurrent_requests" d.maxConcurrentRequests count? }

def Console.ofValue? (v : Value) : Option Console := do
  let s ← fieldsOf? ["route", "redirect_paths"] v
  let d : Console := {}
  return {
    route := ← orDefault s "route" d.route text?
    redirectPaths := ← orDefault s "redirect_paths" d.redirectPaths texts? }

def ConsoleOutput.ofValue? (v : Value) : Option ConsoleOutput := do
  let s ← fieldsOf? ["target", "ansi"] v
  let d : ConsoleOutput := {}
  return {
    target := ← orDefault s "target" d.target stream?
    ansi := ← orDefault s "ansi" d.ansi flag? }

def FileOutput.ofValue? (v : Value) : Option FileOutput := do
  let s ← fieldsOf? ["path", "max_size", "max_history", "rotation", "immediate_flush"] v
  let d : FileOutput := {}
  return {
    path := ← orDefault s "path" d.path text?
    maxSize := ← orDefault s "max_size" d.maxSize text?
    maxHistory := ← orDefault s "max_history" d.maxHistory count?
    rotation := ← orDefault s "rotation" d.rotation rotation?
    immediateFlush := ← orDefault s "immediate_flush" d.immediateFlush flag? }

def AsyncOutput.ofValue? (v : Value) : Option AsyncOutput := do
  let s ← fieldsOf? ["enabled", "queue_size", "discard_threshold"] v
  let d : AsyncOutput := {}
  return {
    enabled := ← orDefault s "enabled" d.enabled flag?
    queueSize := ← orDefault s "queue_size" d.queueSize count?
    discardThreshold := ← orDefault s "discard_threshold" d.discardThreshold count? }

/-- A logger must say its name and its level. -/
def Logger.ofValue? (v : Value) : Option Logger := do
  let s ← fieldsOf? ["name", "level", "additive"] v
  return {
    name := ← (s "name").bind text?
    level := ← (s "level").bind text?
    additive := ← orDefault s "additive" false flag? }

def loggers? : Value → Option (List Logger)
  | .list vs => vs.mapM Logger.ofValue?
  | _ => none

def Logging.ofValue? (v : Value) : Option Logging := do
  let s ← fieldsOf? ["root_level", "console", "file", "async", "loggers"] v
  let d : Logging := {}
  return {
    rootLevel := ← orDefault s "root_level" d.rootLevel text?
    console := ← orDefault s "console" d.console ConsoleOutput.ofValue?
    file := ← orDefault s "file" d.file FileOutput.ofValue?
    async := ← orDefault s "async" d.async AsyncOutput.ofValue?
    loggers := ← orDefault s "loggers" d.loggers loggers? }

def Modules.ofValue? (v : Value) : Option Modules := do
  let s ← fieldsOf? ["root_dir"] v
  let d : Modules := {}
  return { rootDir := ← orDefault s "root_dir" d.rootDir text? }

def Observability.ofValue? (v : Value) : Option Observability := do
  let s ← fieldsOf? ["metrics_enabled", "metrics_address"] v
  let d : Observability := {}
  return {
    metricsEnabled := ← orDefault s "metrics_enabled" d.metricsEnabled flag?
    metricsAddress := ← orDefault s "metrics_address" d.metricsAddress text? }

/-- **The settings of a document.** -/
def ofEntries? (entries : List (String × Value)) : Option Settings := do
  let s : Fields := Toml.entry? entries
  return {
    server := ← orDefault s "server" {} Server.ofValue?
    https := ← orDefault s "https" {} Https.ofValue?
    alternate := ← orDefault s "alt" {} Alternate.ofValue?
    workers := ← orDefault s "workers" {} Workers.ofValue?
    pipeline := ← orDefault s "pipeline" {} Pipeline.ofValue?
    console := ← orDefault s "console" {} Console.ofValue?
    logging := ← orDefault s "logging" {} Logging.ofValue?
    modules := ← orDefault s "modules" {} Modules.ofValue?
    observability := ← orDefault s "observability" {} Observability.ofValue? }

end ModuleHost.Settings
