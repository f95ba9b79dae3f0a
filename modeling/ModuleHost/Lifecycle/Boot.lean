import ModuleHost.Http.Server
import ModuleHost.Lifecycle.Startup
import ModuleHost.Settings.Load

/-!
# Boot and shutdown

A host boots in this order: its port is tried out, its hooks run, its modules must be ready, and its
listeners start. What fails is undone: the modules are stopped and the registry no longer listens.

* `Host.boot`: a running host, or the host that is left with the reason.
* `RunningHost.beginShutdown`, `RunningHost.finishShutdown`: listeners close first, then the actions
  run in reverse, and logging stops at last.
-/

namespace ModuleHost

/-- **Why a host did not boot.** -/
inductive BootError where
  | environment (o : InvalidOverride)
  | config (e : LoadError)
  | startup (e : StartupError)
  | provision (e : Http.ProvisionError)
  | registry (e : RegistryError)
  | configuration (what : String)
  deriving DecidableEq, Inhabited

namespace BootError

/-- The error as text. -/
def message : BootError → String
  | environment o => o.message
  | config e => e.message
  | startup e => e.message
  | provision e => e.message
  | registry e => s!"logging initialization failed: {e.message}"
  | configuration what => s!"configuration error: {what}"

/-- The exit status after a failed boot. -/
def exitCode : Int := -1

end BootError

/-- **A host that serves.** -/
structure RunningHost where
  host : Host
  server : Http.Server
  shutdown : ShutdownSequence HostAction
  /-- The number under which the registry listens. -/
  subscription : Nat
  deriving Inhabited

namespace Host

/-- The target of what boot and shutdown report. -/
def bootTarget : String := "plughost::lifecycle::host"

def say (h : Host) (severity : Severity) (message : String)
    (fields : List (String × FieldValue) := []) : Host :=
  h.report ⟨severity, bootTarget, message, fields⟩

/-- The hooks that a host has by default. -/
def defaultHooks : List Hook := [.modulesRoot, .moduleFramework]

/-- Stop the modules after a failed boot, if they run. -/
def stopAfterFailure (h : Host) : Host :=
  if h.framework.isReady then
    ((h.say .warn "Stopping module framework after failed boot").dispatch
      .frameworkStopping).stopFramework
  else h

/-- Undo what a failed boot did. -/
def cleanup (h : Host) (subscription : Nat) : Host :=
  h.stopAfterFailure.unsubscribe subscription

/-- Go on when the hooks have run: the modules must be ready, and the listeners start. -/
def serveOn (h : Host) (p : Http.Provisioner) (port : UInt16) (ready : Ready)
    (subscription : Nat) : Except (BootError × Host) RunningHost :=
  -- registered last of all, so the modules stop before anything else does
  let ready := ready.onShutdown "module-framework" .stopFramework
  if !h.framework.isReady then
    .error (.configuration "module framework is not ready after startup hooks",
      h.cleanup subscription)
  else
    match p.startOn port h.site h.book with
    | (.error e, book) => .error (.provision e, { h with book }.cleanup subscription)
    | (.ok server, book) =>
      .ok {
        host := { h with book }.say .info "Host ready" [("boot_id", .shown h.bootId),
          ("hooks", .shown (Text.quotedList ready.executed))]
        server := server
        shutdown := ready.shutdown
        subscription := subscription }

/-- **Boot a host** with its hooks. A port that is given wins over the settings. On failure the host
that is left comes with the reason. -/
def boot (h : Host) (port : Option UInt16) (hooks : List Hook) :
    Except (BootError × Host) RunningHost :=
  let p : Http.Provisioner := { settings := h.settings, port }
  let h := h.say .info "Host booting" [("boot_id", .shown h.bootId),
    ("mode", .shown p.mode.label)]
  match h.subscribe .registry with
  | (subscription, h) =>
    match p.resolvePort h.book with
    | (.error e, book) => .error (.provision e, { h with book }.unsubscribe subscription)
    | (.ok port, book) =>
      match { h with book }.startup hooks with
      | (.error e, h) => .error (.startup e, h.cleanup subscription)
      | (.ok ready, h) => h.serveOn p port ready subscription

end Host

namespace RunningHost

/-- What a part of the server does. -/
def withServer {α : Type} (r : RunningHost)
    (f : Http.Server → Logbook → α × Http.Server × Logbook) : α × RunningHost :=
  match f r.server r.host.book with
  | (a, server, book) => (a, { r with server, host := { r.host with book } })

/-- **Begin to shut down**: it is announced, and nobody is let in any more. -/
def beginShutdown (r : RunningHost) : RunningHost :=
  let host := (r.host.say .info "Host shutting down"
    [("boot_id", .shown r.host.bootId)]).dispatch .frameworkStopping
  match r.server.beginStop host.book with
  | (server, book) => { r with server, host := { host with book } }

/-- **Shut down** when everybody left or the time is over. -/
def finishShutdown (r : RunningHost) (graceMs : Nat) : Http.StopReport × RunningHost :=
  match r.withServer (fun s b => s.finishStop graceMs b) with
  | (report, r) =>
    -- the registry listens until the last module has stopped
    let host := ((r.host.runShutdown r.shutdown).unsubscribe r.subscription).say .info
      "Shutdown complete"
    (report, { r with host := { host with book := host.book.stop } })

end RunningHost

end ModuleHost
