import ModuleHost.Http.Message
import ModuleHost.Http.Route
import ModuleHost.Logging.Logbook
import ModuleHost.Text.Json

/-!
# Sites

What a host serves: routes to texts, to texts that wait for their release, and to the status of the
host.

* `Base`: what answers requests, whatever it is.
* `Site.base`, `Site.answer`: a site as such a base. Every route takes `GET` and `HEAD`.
* `StatusReport.text`: the status of the host as a document.
-/

namespace ModuleHost.Http

/-- What a route leads to. -/
inductive Content where
  | text (body : String)
  /-- A text that is sent once it is released. -/
  | held (body : String)
  /-- The status of the host. -/
  | status
  deriving DecidableEq, Inhabited

/-- **The status of a host.** -/
structure StatusReport where
  bootId : String
  mode : RunMode
  since : Instant
  state : RegistryState
  generation : Nat
  owners : List String

/-- The status as a document. Nothing is known of a host before its console is started. -/
def StatusReport.text : Option StatusReport → String
  | none => "\x7b\"status\":\"running\",\"boot_id\":null,\"mode\":null," ++
      "\"started_at\":null,\"logging\":null\x7d"
  | some r =>
    "\x7b\"status\":\"running\",\"boot_id\":" ++ Text.jsonString r.bootId ++
      ",\"mode\":" ++ Text.jsonString r.mode.label ++
      ",\"started_at\":" ++ Text.jsonString r.since.text ++
      ",\"logging\":\x7b\"state\":" ++ Text.jsonString r.state.name ++
      ",\"generation\":" ++ toString r.generation ++
      ",\"owners\":" ++ Text.jsonList r.owners ++ "\x7d\x7d"

/-- **What a host serves.** -/
structure Site where
  router : Router Content := {}
  /-- The answer where no route leads. -/
  missing : Response := { status := 404 }
  bootId : String := ""
  mode : RunMode := .dev
  /-- When the console was started. -/
  since : Option Instant := none
  deriving Inhabited

/-- An answer, or one that waits for its release. -/
inductive Reply where
  | answered (r : Response)
  | held (r : Response)
  deriving DecidableEq, Inhabited

/-- **What answers requests**, whatever it is: those that have a route in some way of its own, which may be seen
in what the host reports, and all others alike. -/
structure Base where
  answer? : Request → Option (Logbook → Reply × Logbook)
  /-- The answer where no route leads. -/
  missing : Response
  /-- The methods to name in the answer, if the request has a route that does not take its method. -/
  allow? : Request → Option String

/-- The answer to a request, without what is added when it leaves the host. -/
def Base.answer (base : Base) (r : Request) (b : Logbook) : Reply × Logbook :=
  match base.answer? r with
  | none => (.answered base.missing, b)
  | some answer => answer b

namespace Site

/-- The methods that every route takes. -/
def routeMethods : List String := ["GET", "HEAD"]

/-- The methods of routes in a header. -/
def routeAllow : String := String.intercalate "," routeMethods

/-- The target of what the console reports. -/
def consoleTarget : String := "plughost::framework::console"

/-- The status at this moment. -/
def report (s : Site) (b : Logbook) : Option StatusReport :=
  s.since.map (fun since =>
    { bootId := s.bootId
      mode := s.mode
      since := since
      state := b.registry.state
      generation := b.registry.generation
      owners := b.registry.owners.map (·.owner) })

/-- What a route leads to at this moment. -/
def render (s : Site) (c : Content) (b : Logbook) : Reply × Logbook :=
  match c with
  | .text body => (.answered (.plain 200 body), b)
  | .held body => (.held (.plain 200 body), b)
  | .status =>
    (.answered (.json (StatusReport.text (s.report b))),
      b.emit ⟨.debug, consoleTarget, "Console status requested", []⟩)

/-- The methods to name in the answer, if the request has a route that does not take its method. -/
def allow? (s : Site) (r : Request) : Option String :=
  if (s.router.find? r.target.path).isSome && !routeMethods.contains r.method.text then
    some routeAllow
  else none

/-- The answer of a route to a request. -/
def routeAnswer (s : Site) (route : Route Content) (r : Request) (b : Logbook) : Reply × Logbook :=
  if routeMethods.contains r.method.text then s.render route.content b
  else (.answered { status := 405 }, b)

/-- **A site answers requests** by its routes. -/
def base (s : Site) : Base where
  answer? := fun r => (s.router.find? r.target.path).map (fun route => s.routeAnswer route r)
  missing := s.missing
  allow? := s.allow?

/-- **The answer to a request**, without what is added when it leaves the host. -/
def answer (s : Site) (r : Request) (b : Logbook) : Reply × Logbook :=
  s.base.answer r b

end Site

end ModuleHost.Http
