import ModuleHost.Data.Table
import ModuleHost.Http.Method
import ModuleHost.Http.Target

/-!
# Requests and responses

* `Request.parse?`: a request from the texts of its method and its target.
* `Response.sealed`: a response as it leaves the host.
-/

namespace ModuleHost.Http

/-- A request. -/
structure Request where
  method : Method
  target : Target
  deriving DecidableEq, Inhabited

/-- **Reading a request.** -/
def Request.parse? (method target : String) : Option Request := do
  let m ← Method.parse? method
  let t ← Target.parse? target
  return ⟨m, t⟩

/-- A response; each header has one value. -/
structure Response where
  status : Nat
  headers : Table String := .empty
  body : String := ""
  deriving DecidableEq, Inhabited

namespace Response

/-- Give a header a value, in the place of the one that it has. -/
def withHeader (r : Response) (name value : String) : Response :=
  { r with headers := r.headers.insert name value }

/-- A plain text. -/
def plain (status : Nat) (body : String) : Response :=
  { Response.mk status .empty body with
    headers := Table.empty.insert "content-type" "text/plain; charset=utf-8" }

/-- A document. -/
def json (body : String) : Response :=
  { Response.mk 200 .empty body with
    headers := Table.empty.insert "content-type" "application/json" }

/-- Give headers their values, in order. -/
def withHeaders (r : Response) (hs : List (String × String)) : Response :=
  hs.foldl (fun r h => r.withHeader h.1 h.2) r

/-- Say which methods are allowed, unless that was said already. -/
def withAllow (r : Response) : Option String → Response
  | none => r
  | some value =>
    match r.headers.get? "allow" with
    | some _ => r
    | none => r.withHeader "allow" value

/-- **The response as it leaves the host**: it states the length of its body, and the answer to a
`HEAD` request has none. -/
def sealed (r : Response) (m : Method) (allow : Option String) : Response :=
  let r := r.withAllow allow
  let r := r.withHeader "content-length" (toString r.body.utf8ByteSize)
  if m.text = "HEAD" then { r with body := "" } else r

end Response

end ModuleHost.Http
