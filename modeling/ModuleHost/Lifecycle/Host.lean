import ModuleHost.Framework.Module
import ModuleHost.Lifecycle.Bus
import ModuleHost.Settings.Basic

/-!
# Hosts

What a host is made of while it starts, runs and stops.

* `Host.dispatch`: an event reaches the registry and the diary.
* `Deed`: what a host did, to its hooks, to its modules and on the bus.
* `Host.diary`, `Note.text`: what of that is shown.
-/

namespace ModuleHost

/-- What the diary records. -/
inductive Note where
  | hook (name : String)
  | looked (key : String) (value : Option String)
  | activated (id : String)
  | deactivated (id : String)
  | heard (e : HostEvent)
  | action (name : String)
  deriving DecidableEq, Inhabited

/-- The entry as text. -/
def Note.text : Note → String
  | hook name => s!"hook {name}"
  | looked key value => s!"attribute {key}={Text.quotedOption value}"
  | activated id => s!"activate {id}"
  | deactivated id => s!"deactivate {id}"
  | heard e => s!"event {e.text}"
  | action name => s!"action {name}"

/-- **What a host did.** -/
inductive Deed where
  | noted (n : Note)
  /-- A hook was given its turn. -/
  | ran (hook : String)
  /-- A module was activated. -/
  | activated (m : HostModule)
  /-- A module was to be activated and refused. -/
  | refused (m : HostModule)
  | deactivated (m : HostModule)
  /-- An event went out on the bus, at this state of the registry. -/
  | dispatched (e : HostEvent) (logging : RegistryState)
  deriving Inhabited

/-- The entry of the diary, if the deed has one. Some modules go unnoted. -/
def Deed.note? : Deed → Option Note
  | noted n => some n
  | activated m => if m.noted then some (.activated m.id) else none
  | refused m => if m.noted then some (.activated m.id) else none
  | deactivated m => if m.noted then some (.deactivated m.id) else none
  | ran _ => none
  | dispatched _ _ => none

/-- Who listens to the events of a host. -/
inductive HostListener where
  | registry
  | diary
  deriving DecidableEq, Inhabited

/-- **A host.** -/
structure Host where
  settings : Settings
  bootId : String
  book : Logbook
  framework : Framework := {}
  bus : EventBus HostListener := {}
  attributes : Table String := .empty
  /-- What it did so far, the latest first. -/
  history : List Deed := []
  deriving Inhabited

namespace Host

/-- Report an event. -/
def report (h : Host) (e : LogEvent) : Host :=
  { h with book := h.book.emit e }

/-- Remember a deed. -/
def record (h : Host) (d : Deed) : Host :=
  { h with history := d :: h.history }

/-- Note something in the diary. -/
def note (h : Host) (n : Note) : Host :=
  h.record (.noted n)

/-- **The diary**: what is shown of the history, the latest first. -/
def diary (h : Host) : List Note :=
  h.history.filterMap Deed.note?

/-- Publish a value for later hooks. -/
def setAttribute (h : Host) (key value : String) : Host :=
  { h with attributes := h.attributes.insert key value }

/-- The host as text. -/
def describe (h : Host) : String :=
  s!"HostContext \x7b boot_id: {h.bootId}, attributes: {h.attributes.entries.length} \x7d"

/-! ### Events -/

/-- Take in a listener, and say its number. -/
def subscribe (h : Host) (l : HostListener) : Nat × Host :=
  ((h.bus.subscribe l).1, { h with bus := (h.bus.subscribe l).2 })

def unsubscribe (h : Host) (id : Nat) : Host :=
  { h with bus := (h.bus.unsubscribe id).2 }

/-- What a listener does about an event. -/
def hear (h : Host) (e : HostEvent) : HostListener → Host
  | .registry => { h with book := h.book.hear e }
  | .diary => h.note (.heard e)

/-- **Dispatch an event** to all who listen. -/
def dispatch (h : Host) (e : HostEvent) : Host :=
  h.bus.audience.foldl (fun h l => h.hear e l)
    ((h.report (h.bus.notice e)).record (.dispatched e h.book.registry.state))

/-! ### What it serves -/

/-- The routes of the modules that run, as a site. -/
def site (h : Host) : Http.Site where
  router := h.framework.router
  bootId := h.bootId
  mode := h.settings.server.mode
  since := h.framework.since

end Host

end ModuleHost
