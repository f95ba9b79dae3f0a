import ModuleHost.Net.Sockets
import ModuleHost.Observability.Meters
import ModuleHost.Storage.Disk
import ModuleHost.Text.Utf8
import ModuleHost.Time.Instant
import ModuleHost.Tls.Library

/-!
# The machine

What a host finds around it: files, sockets and the network, the clock, threads, the library that reads key files,
the two standard streams, and its own meters.
-/

namespace ModuleHost

/-- **The machine that a host runs on.** -/
structure Machine where
  disk : Disk := Disk.empty
  sockets : Net.Sockets := {}
  network : Net.Network := .offline
  tls : Tls.Library := .strict
  now : Instant
  /-- The modification time that a file with content shows when it is opened. -/
  fileTime : Instant
  /-- Why the system starts no further thread, if it starts none. -/
  threadRefusal : Option SystemError := none
  /-- The message with which the thread that reports events was stopped, if it was. What it did up to there is
  done, and what it would have done next is not the program's any more. -/
  panic : Option String := none
  stdout : Bytes := []
  stderr : Bytes := []
  meters : Meters := {}
  deriving Inhabited

namespace Machine

/-- Write a line of the host's own to the error stream. -/
def complain (m : Machine) (text : String) : Machine :=
  { m with stderr := m.stderr ++ Text.Utf8.encode ("plughost: " ++ text ++ "\n") }

/-- Complain if a call was refused. -/
def complainIf (m : Machine) (what : String) : Except SystemError Unit → Machine
  | .ok () => m
  | .error e => m.complain (what ++ ": " ++ e.message)

/-- The thread goes on after a call, unless the call stopped it. -/
def goOnAfter (m : Machine) : Except SystemError Unit → Machine
  | .error .overflow => { m with panic := some SystemError.overflow.message }
  | _ => m

end Machine

end ModuleHost
