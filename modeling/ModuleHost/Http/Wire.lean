import ModuleHost.Http.Message
import ModuleHost.Text.Split
import ModuleHost.Text.Utf8

/-!
# Messages on a connection

How requests and responses are written, one of each for a connection.

* `Wire.request?`: the request that some bytes begin with.
* `Wire.response`: a response in bytes.
-/

namespace ModuleHost.Http.Wire

/-- The end of a line. -/
def lineEnd : List Char := ['\r', '\n']

/-- What may be the last piece of the first line. -/
def versions : List String := ["HTTP/1.1", "HTTP/1.0"]

/-- The head of a message, if all of it is there. -/
def head? (bytes : List UInt8) : Option (List Char) :=
  (Text.splitAt? (lineEnd ++ lineEnd) (Text.Utf8.decodeLossy bytes).toList).map (·.1)

/-- The first line of a head. -/
def firstLine (head : List Char) : List Char :=
  match Text.splitAt? lineEnd head with
  | some (line, _) => line
  | none => head

/-- **The request of a head**: a method, a target and a version. -/
def request? (head : List Char) : Option Request :=
  match Text.splitAll ' ' (firstLine head) with
  | [method, target, version] =>
    if versions.contains (String.ofList version) then
      Request.parse? (String.ofList method) (String.ofList target)
    else none
  | _ => none

/-- What a status is called. -/
def reason : Nat → String
  | 200 => "OK"
  | 302 => "Found"
  | 400 => "Bad Request"
  | 404 => "Not Found"
  | 405 => "Method Not Allowed"
  | 503 => "Service Unavailable"
  | _ => ""

/-- **A response in bytes.** The connection is closed after it. -/
def response (r : Response) : List UInt8 :=
  let line (s : String) := s ++ String.ofList lineEnd
  let headers := r.headers.entries.map (fun h => line s!"{h.1}: {h.2}")
  Text.Utf8.encode (line s!"HTTP/1.1 {r.status} {reason r.status}" ++ String.join headers ++
    line "connection: close" ++ line "" ++ r.body)

end ModuleHost.Http.Wire
