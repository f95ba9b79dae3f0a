/-!
# Host events

What a host and its module framework announce to everybody who listens.
-/

namespace ModuleHost

/-- **A host event.** -/
inductive HostEvent where
  | frameworkReady
  | frameworkStopping
  | moduleStarted (id : String)
  | moduleStopped (id : String)
  deriving DecidableEq, Inhabited

/-- The event as text. -/
def HostEvent.text : HostEvent → String
  | frameworkReady => "framework-ready"
  | frameworkStopping => "framework-stopping"
  | moduleStarted id => s!"module-started({id})"
  | moduleStopped id => s!"module-stopped({id})"

end ModuleHost
