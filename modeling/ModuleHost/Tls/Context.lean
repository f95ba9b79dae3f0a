import ModuleHost.Logging.Logbook

/-!
# TLS contexts

What a listener needs to serve encrypted connections: certificates, the first of them its own, and the
private key that belongs to it.

* `TlsContext.load`: reads both files; the first fault that is found counts.
-/

namespace ModuleHost

/-- **Why there is no context.** -/
inductive TlsError where
  | missingFile (path : String)
  | noCertificates (path : String)
  | noPrivateKey (path : String)
  | unreadable (path : String) (source : String)
  | refused (source : String)
  deriving DecidableEq, Inhabited

/-- The error as text. -/
def TlsError.message : TlsError → String
  | missingFile path => s!"TLS file not found: {path}"
  | noCertificates path => s!"no certificates found in {path}"
  | noPrivateKey path => s!"no private key found in {path}"
  | unreadable path source => s!"failed to read {path}: {source}"
  | refused source => s!"failed to build TLS context: {source}"

/-- **What encrypted connections are served with.** -/
structure TlsContext where
  /-- How many certificates there are. -/
  certificates : Nat
  /-- The protocols that are offered, the preferred first. -/
  protocols : List String := ["h2", "http/1.1"]
  deriving DecidableEq, Inhabited

namespace TlsContext

/-- A file that must be there. -/
def readFile (d : Disk) (path : String) : Except TlsError Bytes :=
  if !d.exists? path then .error (.missingFile path)
  else
    match d.read path with
    | .ok bytes => .ok bytes
    | .error e => .error (.unreadable path e.message)

/-- How many certificates a file has, of which there must be one. -/
def countCertificates (l : Tls.Library) (path : String) (file : Bytes) : Except TlsError Nat :=
  match l.certificates file with
  | .error fault => .error (.unreadable path fault)
  | .ok 0 => .error (.noCertificates path)
  | .ok count => .ok count

/-- A file must have a private key. -/
def checkPrivateKey (l : Tls.Library) (path : String) (file : Bytes) : Except TlsError Unit :=
  match l.hasPrivateKey file with
  | .error fault => .error (.unreadable path fault)
  | .ok false => .error (.noPrivateKey path)
  | .ok true => .ok ()

/-- **The context of two files.** -/
def ofFiles (l : Tls.Library) (d : Disk) (certPath keyPath : String) : Except TlsError TlsContext := do
  let certFile ← readFile d certPath
  let certificates ← countCertificates l certPath certFile
  let keyFile ← readFile d keyPath
  checkPrivateKey l keyPath keyFile
  match l.refusal? certFile keyFile with
  | some fault => throw (.refused fault)
  | none => return { certificates }

/-- **Load the context of two files.** -/
def load (certPath keyPath : String) (b : Logbook) : Except TlsError TlsContext × Logbook :=
  match ofFiles b.machine.tls b.machine.disk certPath keyPath with
  | .error e => (.error e, b)
  | .ok c =>
    (.ok c, b.emit ⟨.info, "plughost::net::tls", "TLS context initialized",
      [("cert", .shown certPath), ("certificates", .ofNat c.certificates)]⟩)

end TlsContext

end ModuleHost
