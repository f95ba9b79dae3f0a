import ModuleHost.Lifecycle.Event
import ModuleHost.Logging.Logbook

/-!
# The event bus

Who hears host events. Listeners are called in the order of their subscription, and they may use the
bus while they are called.

* `EventBus.subscribe`, `EventBus.unsubscribe`: numbers are given out one after another, and go round.
* `EventBus.audience`: who is called by a dispatch that begins now.
* `Conduct`: what somebody does with a bus, call by call.
* `Hall.dispatch`: an event, with all that its listeners do about it.
-/

namespace ModuleHost

/-- **The listeners with their numbers**, in the order of their subscription. -/
structure EventBus (α : Type) where
  listeners : List (Nat × α) := []
  nextId : Nat := 0
  deriving Inhabited

namespace EventBus

variable {α : Type}

/-- How many numbers of 64 bits there are. When all were given out, the first one follows again. -/
def idCount : Nat := 18446744073709551616

/-- Take in a listener, and say its number. -/
def subscribe (b : EventBus α) (a : α) : Nat × EventBus α :=
  (b.nextId, { listeners := b.listeners ++ [(b.nextId, a)], nextId := (b.nextId + 1) % idCount })

/-- Let a listener go, and say whether there was one of that number. -/
def unsubscribe (b : EventBus α) (id : Nat) : Bool × EventBus α :=
  (b.listeners.any (·.1 == id), { b with listeners := b.listeners.filter (·.1 != id) })

/-- **Who is called by a dispatch that begins now.** -/
def audience (b : EventBus α) : List α :=
  b.listeners.map (·.2)

def size (b : EventBus α) : Nat :=
  b.listeners.length

/-- What is reported about a dispatch. -/
def notice (b : EventBus α) (e : HostEvent) : LogEvent :=
  ⟨.debug, "plughost::lifecycle::events", "Dispatching host event",
    [("event", .shown e.text), ("listeners", .ofNat b.size)]⟩

/-- The bus as text. -/
def describe (b : EventBus α) : String :=
  s!"EventBus \x7b listeners: {b.size} \x7d"

/-- A number as text. -/
def idText (id : Nat) : String :=
  s!"SubscriptionId({id})"

end EventBus

/-- **What somebody does with a bus**, call by call. What comes next may hang on the answer to a
call, and on a state that everybody shares. -/
inductive Conduct (α σ : Type) where
  | done
  | subscribe (a : α) (next : Nat → Conduct α σ)
  | unsubscribe (id : Nat) (next : Bool → Conduct α σ)
  | dispatch (e : HostEvent) (next : Conduct α σ)
  | look (next : σ → Conduct α σ)
  | change (f : σ → σ) (next : Conduct α σ)

/-- **A bus at work**, with the state that its listeners share. -/
structure Hall (α σ : Type) where
  bus : EventBus α := {}
  book : Logbook
  state : σ

namespace Hall

variable {α σ : Type}

/-- Carry out a conduct, given how an event is dispatched. -/
def perform (again : HostEvent → Hall α σ → Option (Hall α σ)) :
    Conduct α σ → Hall α σ → Option (Hall α σ)
  | .done, h => some h
  | .subscribe a next, h =>
    perform again (next (h.bus.subscribe a).1) { h with bus := (h.bus.subscribe a).2 }
  | .unsubscribe id next, h =>
    perform again (next (h.bus.unsubscribe id).1) { h with bus := (h.bus.unsubscribe id).2 }
  | .dispatch e next, h => (again e h).bind (perform again next)
  | .look next, h => perform again (next h.state) h
  | .change f next, h => perform again next { h with state := f h.state }

/-- **Dispatch an event**: everybody in the audience is called once, also who is let go meanwhile.
There is no result if events are dispatched from within events more than `depth` deep. -/
def dispatch (hear : α → HostEvent → Conduct α σ) :
    (depth : Nat) → HostEvent → Hall α σ → Option (Hall α σ)
  | 0, _, _ => none
  | depth + 1, e, h =>
    h.bus.audience.foldlM (fun h a => perform (dispatch hear depth) (hear a e) h)
      { h with book := h.book.emit (h.bus.notice e) }

end Hall

end ModuleHost
