import ModuleHost.Lifecycle.Host

/-!
# Starting and stopping modules

Modules are started one after another and stopped the other way round. If one of them cannot be
started, those before it are stopped again.

* `Host.startFramework`, `Host.stopFramework`.
-/

namespace ModuleHost.Host

open Http (Router)

/-- Report something about a module. -/
def sayOf (h : Host) (m : HostModule) (severity : Severity) (message : String)
    (more : List (String × FieldValue) := []) : Host :=
  h.report ⟨severity, "plughost::framework::static_framework", message,
    ("module", .shown m.id) :: more⟩

/-- Stop one module. -/
def stopModule (h : Host) (m : HostModule) : Host :=
  ((h.record (.deactivated m)).sayOf m .info "Module stopped").dispatch (.moduleStopped m.id)

/-- **Stop modules** that were started in this order, the last one first. -/
def stopModules (h : Host) (started : List HostModule) : Host :=
  started.reverse.foldl stopModule h

/-- Grant a module its claim. If that is refused, the module runs on without it. -/
def grantClaim (h : Host) (m : HostModule) : Host :=
  match m.claim with
  | none => h
  | some c =>
    match h.book.claim c with
    | (.ok (), book) => { h with book }
    | (.error e, book) =>
      { h with book }.sayOf m .warn "Logger claim rejected" [("error", .shown e.message)]

/-- The routes of a module beside those of the modules before it. -/
def mergeRoutes (run : Running) (m : HostModule) : Except Http.RouteFault (Router Http.Content) := do
  run.router.merge (← Router.ofList m.routes)

/-- **Start one module** after those that run. -/
def startModule (h : Host) (m : HostModule) (run : Running) :
    Except FrameworkError Running × Host :=
  match m.refusal with
  | some source =>
    (.error (.activation m.id source),
      (h.record (.refused m)).sayOf m .error "Module activation failed"
        [("error", .shown source)])
  | none =>
    let h := h.record (.activated m)
    match mergeRoutes run m with
    | .error f =>
      (.error (.routeConflict m.id f.message),
        (h.sayOf m .error "Module routes conflict" [("reason", .shown f.message)]).record
          (.deactivated m))
    | .ok router =>
      (.ok { started := run.started ++ [m], router },
        ((h.grantClaim m).sayOf m .info "Module started").dispatch (.moduleStarted m.id))

/-- Start modules after those that run. If one of them fails, all are stopped. -/
def startModules : List HostModule → Running → Host → Except FrameworkError Running × Host
  | [], run, h => (.ok run, h)
  | m :: ms, run, h =>
    match h.startModule m run with
    -- the module that failed is not among those that are stopped
    | (.error e, h) => (.error e, h.stopModules run.started)
    | (.ok run, h) => startModules ms run h

/-- Remember when the modules were started for the first time. -/
def markStart (h : Host) : Host :=
  { h with framework := { h.framework with
      since := some (h.framework.since.getD h.book.machine.now) } }

/-- **Start all modules.** -/
def startFramework (h : Host) : Except FrameworkError Unit × Host :=
  if h.framework.isReady then (.error .alreadyStarted, h)
  else
    match startModules h.framework.modules {} h.markStart with
    | (.error e, h) => (.error e, h)
    | (.ok run, h) => (.ok (), { h with framework := { h.framework with running := some run } })

/-- **Stop all modules.** Nothing happens if they do not run. -/
def stopFramework (h : Host) : Host :=
  match h.framework.running with
  | none => h
  | some run => { h with framework := { h.framework with running := none } }.stopModules run.started

end ModuleHost.Host
