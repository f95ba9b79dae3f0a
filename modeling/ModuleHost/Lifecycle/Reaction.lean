import ModuleHost.Lifecycle.Bus

/-!
# Listeners that react

Named listeners that note what they hear and answer an event with one call of the bus.

* `Reactor.hear`: what such a listener does.
* `Reactors.dispatch`: an event among such listeners.
-/

namespace ModuleHost

/-- A call in answer to an event. Others are known by name. -/
inductive Reaction where
  | unsubscribe (target : String)
  | subscribe (target : String)
  | dispatch (e : HostEvent)
  deriving DecidableEq, Inhabited

/-- **A listener with a name**, which may react to every event or to one of a given text. -/
structure Reactor where
  name : String
  reaction : Option (Option String × Reaction) := none
  deriving DecidableEq, Inhabited

/-- What the listeners share: the number of the latest subscription under each name, and what was
noted, the newest first. -/
structure Attendance where
  ids : Table Nat := .empty
  seen : List String := []
  deriving Inhabited

namespace Attendance

def note (text : String) (a : Attendance) : Attendance :=
  { a with seen := text :: a.seen }

def enroll (name : String) (id : Nat) (a : Attendance) : Attendance :=
  { a with ids := a.ids.insert name id }

end Attendance

namespace Reactor

/-- Subscribe, and be known by name from then on. -/
def join (r : Reactor) (next : Nat → Conduct Reactor Attendance) : Conduct Reactor Attendance :=
  .subscribe r (fun id => .change (.enroll r.name id) (next id))

/-- Note whether somebody was let go. -/
def noteLeave (r : Reactor) (target : String) (left : Bool) : Conduct Reactor Attendance :=
  .change (.note s!"{r.name}:unsubscribed {target}={left}") .done

/-- The call that a reaction is. -/
def react (r : Reactor) : Reaction → Conduct Reactor Attendance
  | .unsubscribe target => .look (fun a =>
      match a.ids.get? target with
      | some id => .unsubscribe id (r.noteLeave target)
      | none => r.noteLeave target false)
  | .subscribe target => join { name := target } (fun _ => .done)
  | .dispatch e => .dispatch e .done

/-- The reaction to an event. -/
def reaction? (r : Reactor) (e : HostEvent) : Option Reaction :=
  r.reaction.bind (fun (on?, x) => if on?.all (· == e.text) then some x else none)

/-- **What a listener does about an event.** -/
def hear (r : Reactor) (e : HostEvent) : Conduct Reactor Attendance :=
  .change (.note s!"{r.name}:{e.text}")
    (match r.reaction? e with
      | some x => r.react x
      | none => .done)

end Reactor

/-- A bus of listeners that react. -/
abbrev Reactors := Hall Reactor Attendance

namespace Reactors

/-- How deep events can come from within events among these listeners, if it ends: before an event
comes back, somebody must have been let go. -/
def depth (h : Reactors) : Nat :=
  (h.bus.size + 2) * (h.bus.size + 2)

/-- **Carry out a conduct.** Where it would not end, nothing happens. -/
def perform (h : Reactors) (c : Conduct Reactor Attendance) : Reactors :=
  (Hall.perform (Hall.dispatch Reactor.hear h.depth) c h).getD h

end Reactors

end ModuleHost
