import ModuleHost.Http.Gate
import ModuleHost.Http.Redirect
import ModuleHost.Http.Site

/-!
# The request pipeline

What every request passes before it reaches the site, in this order: the gate, the limiter, the
allowed methods, and the console redirect. In development, answers of the site carry two headers
that name the host.

* `Pipeline.build`: the pipeline that the settings say.
* `Pipeline.handleOver`, `Pipeline.handle`: one request, over any base and over the host's own site.
* `Pipeline.finish`: an answer that had waited.
-/

namespace ModuleHost.Http

/-- A stage that refuses requests. -/
inductive Stage where
  | shutdown
  | limit
  | method
  deriving DecidableEq, Inhabited

def Stage.name : Stage → String
  | shutdown => "shutdown"
  | limit => "limit"
  | method => "method"

/-- **What requests pass.** -/
structure Pipeline where
  gate : Gate := {}
  limiter : Limiter
  allowed : AllowedMethods
  redirect : Option ConsoleRedirect
  /-- The headers of answers of the site. -/
  siteHeaders : List (String × String)
  site : Site
  deriving Inhabited

/-- What is reported about method names that cannot be used. -/
def AllowedMethods.events (names : List String) : List LogEvent :=
  (AllowedMethods.refusedNames names).map (fun n =>
    ⟨.warn, "plughost::http::middleware::allowed_methods", "Ignoring invalid HTTP method",
      [("method", .shown n)]⟩)

namespace Pipeline

/-! ### Building -/

/-- The headers that name the host. -/
def namingHeaders (s : Settings.Server) : List (String × String) :=
  [("server", s.serverHeader), ("x-powered-by", s.poweredByHeader)]

/-- The headers of answers of the site. -/
def siteHeadersOf (mode : RunMode) (s : Settings.Server) : List (String × String) :=
  match mode with
  | .dev => (namingHeaders s).filter (fun h => isHeaderValue h.2)
  | .prod => []

/-- The answer where no route leads. -/
def notFound : Response := .plain 404 "Not found"

/-- A base with the pipeline's own answer where no route leads. -/
def withFallback (base : Base) : Base :=
  { base with missing := notFound }

/-- The pipeline that the settings say, around a site. -/
def ofSettings (site : Site) (s : Settings) (mode : RunMode) : Pipeline where
  limiter := { max := s.pipeline.maxConcurrentRequests }
  allowed := .ofNames s.pipeline.allowedMethods
  redirect := ConsoleRedirect.ofSettings? s.console
  siteHeaders := siteHeadersOf mode s.server
  site := { site with
    missing := notFound
    mode := mode }

/-- What building a pipeline reports: method names that cannot be used, headers that cannot be sent,
and a console route that cannot be sent. -/
def buildEvents (s : Settings) (mode : RunMode) : List LogEvent :=
  AllowedMethods.events s.pipeline.allowedMethods ++
  (match mode with
    | .dev => ((namingHeaders s.server).filter (fun h => !isHeaderValue h.2)).map (fun h =>
        ⟨.warn, "plughost::http::middleware::headers", "Invalid header value, header skipped",
          [("header", .shown h.1), ("value", .shown h.2)]⟩)
    | .prod => []) ++
  (match ConsoleRedirect.ofSettings? s.console with
    | some _ => []
    | none => [⟨.warn, "plughost::http::pipeline", "Invalid console route, redirect disabled",
        [("route", .shown s.console.route)]⟩]) ++
  [⟨.debug, "plughost::http::pipeline", "Handler pipeline assembled",
    [("mode", .shown mode.label),
      ("max_concurrent_requests", .ofNat s.pipeline.maxConcurrentRequests)]⟩]

/-- **Build the pipeline** that the settings say. -/
def build (site : Site) (s : Settings) (mode : RunMode) (b : Logbook) : Pipeline × Logbook :=
  (ofSettings site s mode, (buildEvents s mode).foldl Logbook.emit b)

/-! ### The gate -/

/-- Show how many requests are inside. -/
def meter (g : Gate) (b : Logbook) : Logbook :=
  b.count (·.setInFlight g.inFlight)

/-- Let a request in. -/
def enterGate (g : Gate) (b : Logbook) : Bool × Gate × Logbook :=
  match g.enter with
  | (true, g) => (true, g, meter g b)
  | (false, g) => (false, g, b)

/-- Let a request out. -/
def leaveGate (g : Gate) (b : Logbook) : Gate × Logbook :=
  let g := g.leave.2
  (g, meter g b)

/-- Let several requests out, one after another. -/
def leaveGateTimes : Nat → Gate → Logbook → Gate × Logbook
  | 0, g, b => (g, b)
  | n + 1, g, b =>
    let (g, b) := leaveGate g b
    leaveGateTimes n g b

/-- **Close the gate.** Only the first time is reported. -/
def closeGate (g : Gate) (b : Logbook) : Gate × Logbook :=
  match g.close with
  | (true, g) => (g, b)
  | (false, g) =>
    (g, b.emit ⟨.info, "plughost::http::middleware::graceful",
      "Graceful shutdown started, rejecting new requests", [("in_flight", .ofNat g.inFlight)]⟩)

/-! ### Requests -/

/-- The path of a request, as events show it. -/
def onPath (r : Request) : String × FieldValue :=
  ("path", .shown r.target.path)

/-- What a stage answers to a request that it refuses. -/
def refusal (p : Pipeline) : Stage → Response
  | .shutdown => { status := 503, body := "Server is shutting down" }
  | .limit => { status := 503, body := "Too many concurrent requests" }
  | .method =>
    { Response.mk 405 .empty "Method not allowed" with
      headers := Table.empty.insert "allow" p.allowed.headerText }

/-- What a stage reports about a request that it refuses. -/
def refusalEvent (p : Pipeline) (r : Request) : Stage → LogEvent
  | .shutdown => ⟨.debug, "plughost::http::middleware::graceful",
      "Rejecting request during shutdown", [onPath r]⟩
  | .limit => ⟨.warn, "plughost::http::middleware::request_limit", "Request limit exceeded",
      [("max", .ofNat p.limiter.max)]⟩
  | .method => ⟨.debug, "plughost::http::middleware::allowed_methods", "Method not allowed",
      [("method", .shown r.method.text), onPath r]⟩

/-- Refuse a request: it is reported and counted. -/
def refuse (p : Pipeline) (st : Stage) (r : Request) (b : Logbook) : Response × Logbook :=
  (p.refusal st, (b.emit (p.refusalEvent r st)).count (·.countRejected st.name))

/-- The answer that leads to the console. -/
def redirection (location : String) : Response :=
  { Response.mk 302 .empty "" with headers := Table.empty.insert "location" location }

/-- The redirect, if the request is led to the console. -/
def redirect? (p : Pipeline) (r : Request) : Option ConsoleRedirect :=
  p.redirect.filter (·.covers r.target.path)

/-- Give the headers of the site's answers to a reply. -/
def nameHost (p : Pipeline) : Reply → Reply
  | .answered a => .answered (a.withHeaders p.siteHeaders)
  | .held a => .held (a.withHeaders p.siteHeaders)

/-- What a request is answered that is past the limiter. -/
def innerReply (base : Base) (p : Pipeline) (r : Request) (b : Logbook) : Reply × Logbook :=
  if !p.allowed.allows r.method then
    match p.refuse .method r b with
    | (a, b) => (.answered a, b)
  else
    match p.redirect? r with
    | some c =>
      (.answered (redirection c.location), b.emit ⟨.debug,
        "plughost::http::middleware::console_redirect", "Redirecting to console", [onPath r]⟩)
    | none =>
      match base.answer r b with
      | (reply, b) => (p.nameHost reply, b)

/-- Leave the limiter and the gate. -/
def depart (p : Pipeline) (b : Logbook) : Pipeline × Logbook :=
  match leaveGate p.gate b with
  | (gate, b) => ({ p with gate, limiter := p.limiter.release }, b)

/-- What a request is answered that is inside the gate. An answer that waits stays inside. -/
def gatedReply (base : Base) (p : Pipeline) (r : Request) (b : Logbook) : Reply × Pipeline × Logbook :=
  match p.limiter.acquire with
  | (false, limiter) =>
    -- no slot was taken, so only the gate is left again
    let p := { p with limiter }
    match p.refuse .limit r b with
    | (a, b) =>
      match leaveGate p.gate b with
      | (gate, b) => (.answered a, { p with gate }, b)
  | (true, limiter) =>
    let p := { p with limiter }
    match p.innerReply base r b with
    | (.held a, b) => (.held a, p, b)
    | (.answered a, b) =>
      match p.depart b with
      | (p, b) => (.answered a, p, b)

/-- A reply as it leaves the host. -/
def sealReply (base : Base) (r : Request) : Reply → Reply
  | .answered a => .answered (a.sealed r.method (base.allow? r))
  | .held a => .held (a.sealed r.method (base.allow? r))

/-- **One request**, over any base. -/
def handleOver (base : Base) (p : Pipeline) (r : Request) (b : Logbook) : Reply × Pipeline × Logbook :=
  match enterGate p.gate b with
  | (false, gate, b) =>
    let p := { p with gate }
    match p.refuse .shutdown r b with
    | (a, b) => (sealReply base r (.answered a), p, b)
  | (true, gate, b) =>
    match { p with gate }.gatedReply base r b with
    | (reply, p, b) => (sealReply base r reply, p, b)

/-- **One request**, over the host's own site. -/
def handle (p : Pipeline) (r : Request) (b : Logbook) : Reply × Pipeline × Logbook :=
  p.handleOver p.site.base r b

/-- **An answer that had waited is sent**: its request leaves. -/
def finish (p : Pipeline) (b : Logbook) : Pipeline × Logbook :=
  p.depart b

end Pipeline

end ModuleHost.Http
