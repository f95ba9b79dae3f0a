import ModuleHost.Net.Address
import ModuleHost.Storage.SystemError

/-!
# Listening sockets

The network around a machine, and the addresses that are taken on it.

* `Network.resolve`: the address of a host, which is a literal or a name to be looked up.
* `Sockets.bind`: fails exactly on an address that the system refuses or that is in use.
* `Sockets.release`: gives addresses back.
-/

namespace ModuleHost.Net

/-- **The network around a machine**: what names stand for there, and on which addresses the machine may listen.
Both are as the system says. -/
structure Network where
  /-- The addresses of a host by its name, in the order in which they are to be tried. -/
  lookup : String → Except SystemError (List IpAddress)
  /-- Why the system binds no listener to an address on which nobody listens, if it does not. -/
  refusal? : SocketAddress → Option SystemError
  deriving Inhabited

namespace Network

/-- A machine without a network: it has its loopback addresses, and no name is known. -/
def offline : Network where
  lookup _ := .error .unknownHost
  refusal? a := if a.ip.isLoopback || a.ip.isWildcard then none else some .addressNotAvailable

/-- **The address of a host.** A literal stands for itself, a name for the first of its addresses. -/
def resolve (n : Network) (host : String) (port : UInt16) : Except SystemError SocketAddress :=
  match IpAddress.parse? host with
  | some ip => .ok ⟨ip, port⟩
  | none =>
    if host.toList.contains '\x00' then
      .error (.invalidInput "file name contained an unexpected NUL byte")
    else
      match n.lookup host with
      | .error e => .error e
      | .ok [] => .error (.invalidInput s!"no address for {host}:{port.toNat}")
      | .ok (ip :: _) => .ok ⟨ip, port⟩

end Network

/-- **The addresses in use**, the latest first. -/
structure Sockets where
  bound : List SocketAddress := []
  deriving DecidableEq, Inhabited

namespace Sockets

/-- Whether a listener stands in the way of an address. -/
def inUse (s : Sockets) (a : SocketAddress) : Bool :=
  s.bound.any (fun b => b.port == a.port && b.ip.overlaps a.ip)

/-- Where the machine starts to look for a port of its own choice. -/
def firstFreePort : Nat := 32768

/-- A port on which nobody listens. -/
def freePort (s : Sockets) : UInt16 :=
  (((List.range (s.bound.length + 1)).map (fun i => (firstFreePort + i).toUInt16)).find?
    (fun p => s.bound.all (fun b => b.port != p))).getD 0

/-- The address with a port of the machine's choice in the place of port zero. -/
def assign (s : Sockets) (a : SocketAddress) : SocketAddress :=
  if a.port = 0 then { a with port := s.freePort } else a

/-- **Whether an address can be bound**, and what it would be. -/
def check (s : Sockets) (n : Network) (a : SocketAddress) : Except SystemError SocketAddress :=
  match n.refusal? a with
  | some e => .error e
  | none => if s.inUse a then .error .addressInUse else .ok (s.assign a)

/-- **Bind an address.** -/
def bind (s : Sockets) (n : Network) (a : SocketAddress) : Except SystemError (SocketAddress × Sockets) :=
  match s.check n a with
  | .error e => .error e
  | .ok a => .ok (a, { s with bound := a :: s.bound })

/-- Give an address back. -/
def release (s : Sockets) (a : SocketAddress) : Sockets :=
  { s with bound := s.bound.erase a }

/-- Give addresses back. -/
def releaseAll (s : Sockets) (as : List SocketAddress) : Sockets :=
  as.foldl release s

end Sockets

end ModuleHost.Net
