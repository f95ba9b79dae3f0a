import ModuleHost.Http.Site

/-!
# Modules

The units that a host runs: what they serve, and which logging categories they want to own.

* `HostModule.console`: the module that serves the status of the host.
* `Framework`: the modules of a host, and those of them that run.
* `FrameworkError`: why modules were not started.
-/

namespace ModuleHost

/-- **A module.** -/
structure HostModule where
  id : String
  /-- Why it cannot be activated, if it cannot. -/
  refusal : Option String := none
  routes : List (String × Http.Content) := []
  claim : Option Claim := none
  /-- Whether its coming and going is noted. -/
  noted : Bool := true
  deriving Inhabited

namespace HostModule

/-- The name of the console, as a module and as an owner of categories. -/
def consoleId : String := "plughost.console"

/-- **The console**: it serves the status of the host on a route. -/
def console (route : String) : HostModule where
  id := consoleId
  routes := [(route, .status)]
  claim := some ⟨consoleId, Categories.ofList [Http.Site.consoleTarget], .upTo .info, false⟩
  noted := false

/-- A module that has nothing but its name. -/
def bare (id : String) : HostModule where
  id := id
  noted := false

end HostModule

/-- **The modules that run**, in the order of their start, with all their routes. -/
structure Running where
  started : List HostModule := []
  router : Http.Router Http.Content := {}
  deriving Inhabited

/-- **The modules of a host.** -/
structure Framework where
  modules : List HostModule := []
  running : Option Running := none
  /-- When the modules were started for the first time. -/
  since : Option Instant := none
  deriving Inhabited

namespace Framework

/-- Whether the modules run. -/
def isReady (f : Framework) : Bool :=
  f.running.isSome

/-- The routes of the modules that run. -/
def router (f : Framework) : Http.Router Http.Content :=
  (f.running.map (·.router)).getD {}

def ids (f : Framework) : List String :=
  f.modules.map (·.id)

end Framework

/-- **Why modules were not started.** -/
inductive FrameworkError where
  | alreadyStarted
  | activation (id : String) (source : String)
  | routeConflict (id : String) (reason : String)
  deriving DecidableEq, Inhabited

/-- The error as text. -/
def FrameworkError.message : FrameworkError → String
  | alreadyStarted => "module framework already started"
  | activation id source => s!"module '{id}' failed to activate: {source}"
  | routeConflict id reason => s!"module '{id}' has conflicting routes: {reason}"

end ModuleHost
