import ModuleHost.Logging.Logbook

/-!
# The course of a registry

Everything that can happen to a registry on a machine, in any order and any number: its own calls,
the events of the host, records that go through it, and whatever else changes the machine meanwhile.

* `Logbook.turn`: one happening, with the answer of the call.
* `Course.run`: a registry from its start through a list of happenings. It remembers the settings that
  the last successful start or reset took.
-/

namespace ModuleHost

/-- **What can happen** to a registry on a machine. -/
inductive Turn where
  | init
  | claim (c : Claim)
  | release (owner : String)
  | reset
  | updateConfig (config : Settings.Logging)
  | stop
  | hear (e : HostEvent)
  /-- An event that some part of the host reports. -/
  | emit (e : LogEvent)
  | route
  /-- A record by way of a generation, live or not. -/
  | write (generation : Nat) (sink : Sink) (copies : Nat) (s : Severity) (record : Bytes)
  /-- The writer behind the queue of a generation catches up. -/
  | work (generation : Nat)
  /-- The clock, the files and all else on the machine become what they please. -/
  | elapse (m : Machine)

namespace Logbook

/-- A record by way of a generation. What the outputs refuse is passed over. -/
def write (b : Logbook) (generation : Nat) (sink : Sink) (copies : Nat) (s : Severity)
    (record : Bytes) : Logbook :=
  match b.registry.writeThrough generation sink copies s record b.machine with
  | (_, r, m) => { b with registry := r, machine := m }

/-- The writer behind the queue of a generation catches up. -/
def work (b : Logbook) (generation : Nat) : Logbook :=
  match b.registry.work generation b.machine with
  | (r, m) => { b with registry := r, machine := m }

/-- **One turn**, with the answer of the call. What cannot be refused is answered with `ok`. -/
def turn (b : Logbook) : Turn → Except RegistryError Unit × Logbook
  | .init => b.init
  | .claim c => b.claim c
  | .release owner => b.release owner
  | .reset => b.reset
  | .updateConfig config => (.ok (), b.updateConfig config)
  | .stop => (.ok (), b.stop)
  | .hear e => (.ok (), b.hear e)
  | .emit e => (.ok (), b.emit e)
  | .route => (.ok (), b.route)
  | .write g sink copies s record => (.ok (), b.write g sink copies s record)
  | .work g => (.ok (), b.work g)
  | .elapse m => (.ok (), { b with machine := m })

end Logbook

/-- Whether a turn builds outputs when it succeeds. -/
def Turn.builds : Turn → Bool
  | .init => true
  | .reset => true
  | _ => false

/-- **A registry under way**, with the settings that the last successful start or reset took. -/
structure Course where
  book : Logbook
  installed : Option Settings.Logging := none

namespace Course

/-- The registry of a course. -/
abbrev registry (s : Course) : Registry := s.book.registry

/-- Before anything happened. -/
def start (config : Settings.Logging) (m : Machine) : Course where
  book := { machine := m, registry := Registry.new config }

/-- The course after one more turn. -/
def take (s : Course) (t : Turn) : Course :=
  match s.book.turn t with
  | (.ok (), b) =>
    { book := b, installed := if t.builds then some s.registry.config else s.installed }
  | (.error _, b) => { s with book := b }

/-- **The course after some turns.** -/
def run (s : Course) (ts : List Turn) : Course :=
  ts.foldl take s

@[simp]
theorem run_nil (s : Course) : s.run [] = s := rfl

@[simp]
theorem run_cons (s : Course) (t : Turn) (ts : List Turn) : s.run (t :: ts) = (s.take t).run ts := rfl

theorem take_of_ok {s : Course} {t : Turn} (h : (s.book.turn t).1 = .ok ()) :
    s.take t = { book := (s.book.turn t).2,
                 installed := if t.builds then some s.registry.config else s.installed } := by
  unfold take
  split
  · rename_i b hb
    rw [hb]
  · rename_i e b hb
    rw [hb] at h
    cases h

theorem take_of_error {s : Course} {t : Turn} {e : RegistryError}
    (h : (s.book.turn t).1 = .error e) :
    s.take t = { s with book := (s.book.turn t).2 } := by
  unfold take
  split
  · rename_i b hb
    rw [hb] at h
    cases h
  · rename_i e' b hb
    rw [hb]

@[simp]
theorem take_book (s : Course) (t : Turn) : (s.take t).book = (s.book.turn t).2 := by
  cases h : (s.book.turn t).1 with
  | ok => rw [take_of_ok h]
  | error e => rw [take_of_error h]

/-- **What a start has and every turn keeps, every course has.** -/
theorem run_induction {P : Course → Prop} (hstep : ∀ s t, P s → P (s.take t)) (ts : List Turn) :
    ∀ s, P s → P (s.run ts) := by
  induction ts with
  | nil => intro s h; exact h
  | cons t ts ih => intro s h; exact ih (s.take t) (hstep s t h)

end Course

end ModuleHost
