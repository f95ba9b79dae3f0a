import ModuleHost.Http.Pipeline
import ModuleHost.Http.Workers
import ModuleHost.Net.Listener
import ModuleHost.Tls.Context

/-!
# Servers

The listeners of a host. All of them serve one pipeline, and all are bound before any serves.

* `Provisioner.plan`: the listeners that the settings ask for, the main one first.
* `Provisioner.startOn`: either all listeners serve, or none is bound.
* `Server.finishStop`: what is left inside when the time is over is abandoned.
-/

namespace ModuleHost.Http

open ModuleHost.Net

/-- What a listener is for. -/
inductive ListenerKind where
  | http
  | https
  | alt
  deriving DecidableEq, Inhabited

def ListenerKind.name : ListenerKind → String
  | http => "http"
  | https => "https"
  | alt => "alt"

/-- A listener to bind, or one that is bound. -/
structure ListenerSpec where
  kind : ListenerKind
  address : SocketAddress
  deriving DecidableEq, Inhabited

/-- **Why listeners could not be provided.** -/
inductive ProvisionError where
  | configuration (what : String)
  | resource (address : String) (source : SystemError)
  | security (e : TlsError)
  deriving DecidableEq, Inhabited

/-- The error as text. -/
def ProvisionError.message : ProvisionError → String
  | configuration what => s!"configuration error: {what}"
  | resource address source => s!"cannot bind {address}: {source.message}"
  | security e => s!"TLS initialization failed: {e.message}"

/-- **A running server.** -/
structure Server where
  listeners : List ListenerSpec
  pipeline : Pipeline
  /-- Answers that wait for their release, the oldest first. -/
  held : List Response := []
  deriving Inhabited

/-- **What provides listeners**: the settings, and a port that wins over them. -/
structure Provisioner where
  settings : Settings
  port : Option UInt16 := none
  deriving DecidableEq, Inhabited

/-- The target of what servers report. -/
def serverTarget : String := "plughost::http::server"

namespace Provisioner

def mode (p : Provisioner) : RunMode :=
  p.settings.server.mode

/-! ### Addresses -/

/-- The address of a host and a port. -/
def addressOf (n : Network) (host : String) (port : UInt16) : Except ProvisionError SocketAddress :=
  (n.resolve host port).mapError (.resource s!"{host}:{port.toNat}")

/-- **The port of the main listener.** It is tried out if the settings say so. -/
def resolvePort (p : Provisioner) (b : Logbook) : Except ProvisionError UInt16 × Logbook :=
  match b.resolvePort p.settings.server.port p.port with
  | (port, b) =>
    if p.settings.server.checkPort then
      match addressOf b.machine.network p.settings.server.host port with
      | .error e => (.error e, b)
      | .ok a =>
        match b.preflight a with
        | (.error e, b) => (.error (.resource a.text e), b)
        | (.ok (), b) => (.ok port, b)
    else (.ok port, b)

/-- The alternate listener, if it is enabled. -/
def alternate (p : Provisioner) (n : Network) : Except ProvisionError (Option ListenerSpec) :=
  if p.settings.alternate.enabled then
    (addressOf n p.settings.alternate.host p.settings.alternate.port).map
      (fun a => some ⟨.alt, a⟩)
  else .ok none

/-- The encrypted listener, if it is enabled. -/
def encrypted (p : Provisioner) (n : Network) : Except ProvisionError (Option ListenerSpec) :=
  if p.settings.https.enabled then
    (addressOf n p.settings.https.host p.settings.https.port).map (fun a => some ⟨.https, a⟩)
  else .ok none

/-- **The listeners to bind**, the main one first. -/
def plan (p : Provisioner) (n : Network) (port : UInt16) : Except ProvisionError (List ListenerSpec) := do
  let main ← addressOf n p.settings.server.host port
  let https ← p.encrypted n
  let alt ← p.alternate n
  return ⟨.http, main⟩ :: (https.toList ++ alt.toList)

/-! ### What listeners serve with -/

/-- **The size of the worker pool.** -/
def workerPool (p : Provisioner) (processors : Nat) (b : Logbook) : WorkerPool × Logbook :=
  let pool := WorkerPool.size p.mode processors p.settings.workers
  (pool, b.emit ⟨.info, serverTarget, "Worker pool sized",
    [("mode", .shown p.mode.label), ("cpu_count", .ofNat processors), ("core", .ofNat pool.core),
      ("max", .ofNat pool.max)]⟩)

/-- The context of the encrypted listener, if it is enabled. -/
def enableTls (p : Provisioner) (b : Logbook) :
    Except ProvisionError (Option TlsContext) × Logbook :=
  if p.settings.https.enabled then
    match TlsContext.load p.settings.https.certPath p.settings.https.keyPath b with
    | (.error e, b) => (.error (.security e), b)
    | (.ok c, b) => (.ok (some c), b)
  else (.ok none, b)

/-! ### Starting -/

/-- Bind listeners beside those that are bound. If one fails, all are closed again. -/
def bindAll : List ListenerSpec → (bound : List ListenerSpec) → Logbook →
    Except ProvisionError (List ListenerSpec) × Logbook
  | [], bound, b => (.ok bound, b)
  | s :: rest, bound, b =>
    match b.bindListener s.address with
    | (.error e, b) =>
      -- nothing that was bound before outlives the failure
      (.error (.resource s.address.text e), b.closeListeners (bound.map (·.address)))
    | (.ok a, b) => bindAll rest (bound ++ [⟨s.kind, a⟩]) b

/-- Let bound listeners serve. An encrypted one needs a context. -/
def serveAll (tls : Option TlsContext) : List ListenerSpec → Logbook →
    Except ProvisionError Unit × Logbook
  | [], b => (.ok (), b)
  | s :: rest, b =>
    if s.kind == .https && tls.isNone then
      (.error (.configuration "HTTPS listener planned without a TLS context"),
        b.closeListeners ((s :: rest).map (·.address)))
    else
      serveAll tls rest (b.emit ⟨.info, serverTarget, "Listening for connections",
        [("listener", .shown s.kind.name), Logbook.onAddress s.address]⟩)

/-- Bind listeners and let them serve a pipeline. -/
def serve (tls : Option TlsContext) (specs : List ListenerSpec) (pipeline : Pipeline)
    (b : Logbook) : Except ProvisionError Server × Logbook :=
  match bindAll specs [] b with
  | (.error e, b) => (.error e, b)
  | (.ok listeners, b) =>
    match serveAll tls listeners b with
    | (.error e, b) => (.error e, b)
    | (.ok (), b) => (.ok { listeners, pipeline }, b)

/-- **Start a server** for a site, with its main listener on a port. -/
def startOn (p : Provisioner) (port : UInt16) (site : Site) (b : Logbook) :
    Except ProvisionError Server × Logbook :=
  match p.enableTls b with
  | (.error e, b) => (.error e, b)
  | (.ok tls, b) =>
    match p.plan b.machine.network port with
    | .error e => (.error e, b)
    | .ok specs =>
      match Pipeline.build site p.settings p.mode b with
      | (pipeline, b) => serve tls specs pipeline b

/-- **Start a server** for a site. -/
def start (p : Provisioner) (site : Site) (b : Logbook) :
    Except ProvisionError Server × Logbook :=
  match p.resolvePort b with
  | (.error e, b) => (.error e, b)
  | (.ok port, b) => p.startOn port site b

end Provisioner

/-- **What is said about a stop.** -/
structure StopReport where
  /-- Whether everybody left in time. -/
  drained : Bool
  /-- Requests that were still inside. -/
  abandoned : Nat
  deriving DecidableEq, Inhabited

namespace Server

def inFlight (s : Server) : Nat :=
  s.pipeline.gate.inFlight

/-- Whether there is a listener of a kind. -/
def hasListener (s : Server) (kind : ListenerKind) : Bool :=
  s.listeners.any (·.kind == kind)

/-- The answer to a message that is no request. -/
def badRequest : Response where
  status := 400

/-- **One request.** There is no answer yet if it has to wait for its release. -/
def request (s : Server) (r : Option Request) (b : Logbook) :
    Option Response × Server × Logbook :=
  match r with
  | none => (some badRequest, s, b)
  | some r =>
    match s.pipeline.handle r b with
    | (.answered a, pipeline, b) => (some a, { s with pipeline }, b)
    | (.held a, pipeline, b) => (none, { s with pipeline, held := s.held ++ [a] }, b)

/-- Release an answer: its request leaves. -/
def releaseOne (s : Server) (a : Response) (b : Logbook) : Response × Server × Logbook :=
  match s.pipeline.finish b with
  | (pipeline, b) => (a, { s with pipeline }, b)

/-- **Release** the oldest answers. -/
def release (count : Nat) (s : Server) (b : Logbook) : List Response × Server × Logbook :=
  (s.held.take count).foldl (fun (sent, s, b) a =>
    match s.releaseOne a b with
    | (a, s, b) => (sent ++ [a], s, b)) ([], { s with held := s.held.drop count }, b)

/-! ### Stopping -/

/-- **Begin to stop**: nobody is let in any more. -/
def beginStop (s : Server) (b : Logbook) : Server × Logbook :=
  match Pipeline.closeGate s.pipeline.gate b with
  | (gate, b) => ({ s with pipeline := { s.pipeline with gate } }, b)

/-- What is said about a stop at the moment when the time is over. -/
def stopReport (s : Server) : StopReport :=
  ⟨s.pipeline.gate.isEmpty, s.inFlight⟩

/-- What is reported if not everybody left within some milliseconds. -/
def expiry (r : StopReport) (graceMs : Nat) : List LogEvent :=
  if r.drained then []
  else [⟨.warn, serverTarget, "Grace period expired with requests in flight",
    [("abandoned", .ofNat r.abandoned), ("grace_secs", .ofNat (graceMs / 1000))]⟩]

/-- Let go of the requests that are still inside. -/
def abandon (s : Server) (b : Logbook) : Server × Logbook :=
  match Pipeline.leaveGateTimes s.inFlight s.pipeline.gate b with
  | (gate, b) => ({ s with pipeline := { s.pipeline with gate }, held := [] }, b)

/-- **Stop** when everybody left or the time is over. No listener is bound afterwards. -/
def finishStop (graceMs : Nat) (s : Server) (b : Logbook) : StopReport × Server × Logbook :=
  let report := s.stopReport
  let b := (expiry report graceMs).foldl Logbook.emit b
  match s.abandon (b.closeListeners (s.listeners.map (·.address))) with
  | (s, b) =>
    (report, { s with listeners := [] }, b.emit ⟨.info, serverTarget, "HTTP server stopped",
      [("drained", .ofBool report.drained), ("elapsed_ms", .ofNat 0)]⟩)

end Server

end ModuleHost.Http
