/-!
# The gate and the limiter

The gate counts requests that are inside and can be closed for good; the limiter hands out a fixed
number of slots.

Both are changed in atomic steps, from which `Gate.enter` and `Limiter.acquire` are put together. A
request that is refused is counted for a moment all the same.
-/

namespace ModuleHost.Http

/-- **The gate.** -/
structure Gate where
  /-- Requests counted at this moment. -/
  inFlight : Nat := 0
  closing : Bool := false
  deriving DecidableEq, Inhabited

namespace Gate

/-- Atomic step: count one more request. -/
def count (g : Gate) : Gate :=
  { g with inFlight := g.inFlight + 1 }

/-- Atomic step: count one request less, and say how many there were. -/
def uncount (g : Gate) : Nat × Gate :=
  (g.inFlight, { g with inFlight := g.inFlight - 1 })

/-- Atomic step: close the gate, and say whether it was closed already. -/
def close (g : Gate) : Bool × Gate :=
  (g.closing, { g with closing := true })

/-- Leave: whoever waits is woken by the last request that leaves a closing gate. -/
def leave (g : Gate) : Bool × Gate :=
  let (before, g) := g.uncount
  (before == 1 && g.closing, g)

/-- **Enter**, unless the gate is closing. -/
def enter (g : Gate) : Bool × Gate :=
  let g := g.count
  if g.closing then (false, g.leave.2) else (true, g)

/-- Whether nobody is inside. -/
def isEmpty (g : Gate) : Bool :=
  g.inFlight == 0

/-- Whether somebody who starts to wait now gets to know that everybody left. Before the gate closes
nobody is woken. -/
def wakesWaiter (g : Gate) : Bool :=
  g.closing || g.isEmpty

end Gate

/-- **The limiter.** -/
structure Limiter where
  max : Nat
  /-- Slots counted as taken at this moment. -/
  inFlight : Nat := 0
  deriving DecidableEq, Inhabited

namespace Limiter

/-- Atomic step: count one more slot, and say how many were counted before. -/
def add (l : Limiter) : Nat × Limiter :=
  (l.inFlight, { l with inFlight := l.inFlight + 1 })

/-- Atomic step: count one slot less. -/
def sub (l : Limiter) : Limiter :=
  { l with inFlight := l.inFlight - 1 }

/-- **Take a slot** if one is free. -/
def acquire (l : Limiter) : Bool × Limiter :=
  let (before, l) := l.add
  if l.max ≤ before then (false, l.sub) else (true, l)

/-- Give a slot back. -/
def release (l : Limiter) : Limiter :=
  l.sub

end Limiter

end ModuleHost.Http
