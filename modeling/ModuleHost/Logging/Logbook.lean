import ModuleHost.Lifecycle.Event
import ModuleHost.Logging.Record
import ModuleHost.Logging.Registry
import ModuleHost.Settings.Load

/-!
# The logbook

The registry at work on a machine, with what the host reports. Events either go the way that the live
tree says, or they are noted as they are.

* `Logbook.emit`: one event.
* `Logbook.claim`, `Logbook.release`, `Logbook.init`, `Logbook.reset`: the registry's calls with the
  events that they report.
* `Logbook.hear`: the registry as a listener of host events.
-/

namespace ModuleHost

/-- **A registry on a machine**, and the events noted so far, the newest first. -/
structure Logbook where
  machine : Machine
  registry : Registry
  /-- Whether console records are coloured, if events go through the registry at all. -/
  routed : Option Bool := none
  noted : List LogEvent := []
  deriving Inhabited

namespace Logbook

/-- The target of the registry's own events. -/
def target : String := "plughost::logging"

/-- The thread that reports. -/
def thread : String := "main"

/-- **Report an event.** It goes by the tree as it is at this moment. -/
def emit (b : Logbook) (e : LogEvent) : Logbook :=
  match b.routed with
  | none => { b with noted := e :: b.noted }
  | some ansi =>
    -- only the console copy is ever coloured
    let text := fun ansi => Text.Utf8.encode (e.record ansi b.machine.now thread)
    let (r, m) := b.registry.publish .console e.target e.severity (text ansi) b.machine
    let (r, m) := r.publish .file e.target e.severity (text false) m
    { b with registry := r, machine := m }

/-- Report an event of the registry itself. -/
def say (b : Logbook) (severity : Severity) (message : String)
    (fields : List (String × FieldValue) := []) : Logbook :=
  b.emit ⟨severity, target, message, fields⟩

/-- Send the registry's events through its own tree from now on. -/
def route (b : Logbook) : Logbook :=
  { b with routed := some b.registry.config.console.ansi }

/-- Note one more shed, refused or completed thing. -/
def count (b : Logbook) (f : Meters → Meters) : Logbook :=
  { b with machine := { b.machine with meters := f b.machine.meters } }

/-- **Start the registry.** -/
def init (b : Logbook) : Except RegistryError Unit × Logbook :=
  match b.registry.init b.machine with
  | (.error e, m) => (.error e, { b with machine := m })
  | (.ok r, m) =>
    (.ok (), { b with machine := m, registry := r }.say .info "Log registry initialized")

/-- Report that the root was dropped from a claim, if it was. -/
def warnOfRoot (b : Logbook) (c : Claim) : Logbook :=
  if b.registry.namesRoot c then
    b.say .warn s!"Dropped {rootCategory} from claimed categories" [("owner", .shown c.owner)]
  else b

/-- Grant a claim and report it. -/
def grant (b : Logbook) (c : Claim) : Except RegistryError Unit × Logbook :=
  match b.registry.claim c with
  | .error e => (.error e, b)
  | .ok r =>
    (.ok (), { b with registry := r }.say .info "Added loggers" [("owner", .shown c.owner),
      ("categories", .shown (Text.quotedSet (Registry.withoutRoot c).categories.names)),
      ("level", .shown c.level.name), ("additive", .ofBool c.additive)])

/-- **Grant a claim.** That the root was dropped from it is reported before anything else, even if the
claim is refused for another reason. -/
def claim (b : Logbook) (c : Claim) : Except RegistryError Unit × Logbook :=
  (b.warnOfRoot c).grant c

/-- **Release the categories of an owner.** -/
def release (b : Logbook) (owner : String) : Except RegistryError Unit × Logbook :=
  match b.registry.release owner with
  | .error e => (.error e, b)
  | .ok r =>
    match b.registry.claimOf? owner with
    | none => (.ok (), b)
    | some c =>
      (.ok (), { b with registry := r }.say .info "Removed loggers" [("owner", .shown owner),
        ("categories", .shown (Text.quotedSet c.categories.names))])

/-- **Reset the registry.** -/
def reset (b : Logbook) : Except RegistryError Unit × Logbook :=
  match b.registry.reset b.machine with
  | (.error e, m) => (.error e, { b with machine := m })
  | (.ok r, m) =>
    (.ok (), { b with machine := m, registry := r }.say .info "Logging pipeline reset"
      [("generation", .ofNat r.generation), ("owners", .ofNat r.owners.length),
        ("elapsed_ms", .ofNat 0)])

def updateConfig (b : Logbook) (config : Settings.Logging) : Logbook :=
  { b with registry := b.registry.updateConfig config }

/-- **Stop the registry.** Nothing is reported: there is nobody left who would write it. -/
def stop (b : Logbook) : Logbook :=
  match b.registry.stop b.machine with
  | (r, m) => { b with machine := m, registry := r }

/-- **The registry as a listener**: a module that stopped owns nothing any more. -/
def hear (b : Logbook) : HostEvent → Logbook
  | .moduleStopped id =>
    match b.release id with
    | (.ok (), b) => b
    | (.error e, b) =>
      b.say .debug "Loggers not released" [("module", .shown id), ("error", .shown e.message)]
  | _ => b

/-- Put one reloaded logging section into effect. -/
def applyUpdate (b : Logbook) (config : Settings.Logging) : Logbook :=
  match (b.updateConfig config).reset with
  | (.ok (), b) => b
  | (.error e, b) =>
    b.emit ⟨.error, Settings.watcherTarget, "Logging reset failed", [("error", .shown e.message)]⟩

/-- **Put reloaded logging sections into effect**, one after another. -/
def applyUpdates (b : Logbook) (configs : List Settings.Logging) : Logbook :=
  configs.foldl applyUpdate b

end Logbook

end ModuleHost
