import ModuleHost.Logging.Event
import ModuleHost.Text.Quoted

/-!
# Shutdown

The signal that asks everybody to come to an end, and the actions that are taken at the end.

* `ShutdownSignal.trigger`, `ShutdownSignal.resolves`: put together from atomic steps. Who waits
  subscribes before it looks at the flag, and who triggers sets the flag before it sends.
* `ShutdownSequence.run`: what was registered last is done first.
-/

namespace ModuleHost

/-- **The shutdown signal.** Each receiver is shown by whether a message waits for it. -/
structure ShutdownSignal where
  triggered : Bool := false
  receivers : List Bool := []
  deriving DecidableEq, Inhabited

namespace ShutdownSignal

/-- Atomic step: set the flag, and say whether it was set already. -/
def setFlag (s : ShutdownSignal) : Bool × ShutdownSignal :=
  (s.triggered, { s with triggered := true })

/-- Atomic step: send the message to every receiver. -/
def broadcast (s : ShutdownSignal) : ShutdownSignal :=
  { s with receivers := s.receivers.map (fun _ => true) }

/-- Atomic step: one more receiver, the last one from now on. -/
def subscribe (s : ShutdownSignal) : ShutdownSignal :=
  { s with receivers := s.receivers ++ [false] }

/-- Atomic step: take the message that waits for a receiver, and say whether there was one. -/
def receive (s : ShutdownSignal) (i : Nat) : Bool × ShutdownSignal :=
  (s.receivers.getD i false, { s with receivers := s.receivers.set i false })

/-- Atomic step: a receiver goes away. -/
def drop (s : ShutdownSignal) (i : Nat) : ShutdownSignal :=
  { s with receivers := s.receivers.eraseIdx i }

/-- **Trigger the signal.** Only the first time a message is sent. -/
def trigger (s : ShutdownSignal) : ShutdownSignal :=
  match s.setFlag with
  | (true, s) => s
  | (false, s) => s.broadcast

/-- **Whether somebody who starts to wait now gets through** when `meanwhile` has happened after it
looked at the flag. Its receiver goes away with it. -/
def resolves (s : ShutdownSignal) (meanwhile : ShutdownSignal → ShutdownSignal) :
    Bool × ShutdownSignal :=
  let i := s.receivers.length
  -- whoever triggers after this line reaches the receiver, whoever did before is seen by the flag
  let s := s.subscribe
  if s.triggered then (true, (meanwhile s).drop i)
  else
    let (got, s) := (meanwhile s).receive i
    (got, s.drop i)

end ShutdownSignal

/-- **Named actions** to be taken at the end, in the order in which they were registered. -/
structure ShutdownSequence (α : Type) where
  actions : List (String × α) := []
  deriving Inhabited

namespace ShutdownSequence

variable {α σ : Type}

def push (s : ShutdownSequence α) (name : String) (a : α) : ShutdownSequence α :=
  ⟨s.actions ++ [(name, a)]⟩

/-- The actions in the order in which they are taken. -/
def schedule (s : ShutdownSequence α) : List (String × α) :=
  s.actions.reverse

/-- What is reported before an action. -/
def notice (name : String) : LogEvent :=
  ⟨.info, "plughost::lifecycle::shutdown", "Running shutdown action", [("action", .shown name)]⟩

/-- **Take every action.** Each is reported before. -/
def run (s : ShutdownSequence α) (report : LogEvent → σ → σ) (act : α → σ → σ) (x : σ) : σ :=
  s.schedule.foldl (fun x (name, a) => act a (report (notice name) x)) x

/-- The names as text. -/
def describe (s : ShutdownSequence α) : String :=
  Text.quotedList (s.actions.map (·.1))

end ShutdownSequence

end ModuleHost
