import ModuleHost.Logging.Logbook

/-!
# Listeners

* `Logbook.resolvePort`: the port of the main listener.
* `Logbook.preflight`: whether an address could be bound, without binding it.
* `Logbook.bindListener`: an address bound for good.
-/

namespace ModuleHost.Logbook

open ModuleHost.Net

/-- The target of what listeners report. -/
def listenerTarget : String := "plughost::net::listener"

def onPort (p : UInt16) : List (String × FieldValue) :=
  [("port", .ofNat p.toNat)]

def onAddress (a : SocketAddress) : String × FieldValue :=
  ("address", .shown a.text)

/-- **The port of the main listener**: an override wins over the settings. -/
def resolvePort (b : Logbook) (configured : UInt16) (override? : Option UInt16) :
    UInt16 × Logbook :=
  match override? with
  | some p => (p, b.emit ⟨.info, listenerTarget, "Using port from override", onPort p⟩)
  | none =>
    (configured, b.emit ⟨.warn, listenerTarget,
      "No port override specified, using configured port", onPort configured⟩)

/-- **Try an address.** It is free again afterwards. -/
def preflight (b : Logbook) (a : SocketAddress) : Except SystemError Unit × Logbook :=
  match b.machine.sockets.check b.machine.network a with
  | .ok _ => (.ok (), b.emit ⟨.debug, listenerTarget, "Port preflight succeeded", [onAddress a]⟩)
  | .error e =>
    (.error e, b.emit ⟨.error, listenerTarget, "Port is not available",
      [onAddress a, ("error", .shown e.message)]⟩)

/-- **Bind an address** and listen on it. -/
def bindListener (b : Logbook) (a : SocketAddress) :
    Except SystemError SocketAddress × Logbook :=
  match b.machine.sockets.bind b.machine.network a with
  | .error e => (.error e, b)
  | .ok (a, sockets) =>
    (.ok a, { b with machine := { b.machine with sockets } }.emit
      ⟨.info, listenerTarget, "Listener bound", [onAddress a]⟩)

/-- Close listeners. -/
def closeListeners (b : Logbook) (as : List SocketAddress) : Logbook :=
  { b with machine := { b.machine with sockets := b.machine.sockets.releaseAll as } }

end ModuleHost.Logbook
