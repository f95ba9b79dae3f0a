import ModuleHost.Net.Listener
import ModuleHost.Settings.Basic

/-!
# The metrics endpoint

* `Logbook.startExporter`: the listener for those who collect the meters. A host runs on without it.
-/

namespace ModuleHost.Logbook

/-- Bind the endpoint. -/
def bindExporter (b : Logbook) (a : Net.SocketAddress) : Logbook :=
  match b.machine.sockets.bind b.machine.network a with
  | .ok (_, sockets) =>
    { b with machine := { b.machine with sockets } }.emit
      ⟨.info, "plughost::observability::metrics", "Prometheus exporter listening", [onAddress a]⟩
  | .error e =>
    b.emit ⟨.error, "plughost::observability::metrics", "Failed to install Prometheus exporter",
      [onAddress a, ("error", .shown s!"failed to create HTTP listener: {e.message}")]⟩

/-- **Start the metrics endpoint**, if it is enabled. -/
def startExporter (b : Logbook) (s : Settings.Observability) : Logbook :=
  if !s.metricsEnabled then b
  else
    match Net.SocketAddress.parse? s.metricsAddress with
    | some a => b.bindExporter a
    | none =>
      b.emit ⟨.error, "plughost", "Failed to parse metrics address",
        [("metrics_address", .shown s.metricsAddress)]⟩

end ModuleHost.Logbook
