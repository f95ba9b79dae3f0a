import ModuleHost.Data.Table

/-!
# Meters

What a host counts while it runs.

* `Meters.readings`: every meter that was touched, with its labels and its value.
* `find_bumpCount`: what one more does to the count of every label.
-/

namespace ModuleHost

/-- Add one to the count of a label. -/
def bumpCount (label : String) : List (String × Nat) → List (String × Nat)
  | [] => [(label, 1)]
  | (l, n) :: r => if l = label then (l, n + 1) :: r else (l, n) :: bumpCount label r

/-- One more is counted for a label, and for no other. -/
theorem find_bumpCount (label other : String) (es : List (String × Nat)) :
    (Table.find (bumpCount label es) other).getD 0 =
      (Table.find es other).getD 0 + if label = other then 1 else 0 := by
  induction es with
  | nil => by_cases h : label = other <;> simp [bumpCount, Table.find, h]
  | cons e es ih =>
    obtain ⟨l, n⟩ := e
    unfold bumpCount
    split
    · rename_i hl
      subst hl
      by_cases h : l = other <;> simp [Table.find, h]
    · rename_i hl
      by_cases h : l = other
      · subst h
        simp [Table.find, Ne.symm hl]
      · simp only [Table.find, h, if_false]
        exact ih

/-- **The counters and gauges of a host.** -/
structure Meters where
  /-- Requests refused, by pipeline stage. -/
  rejected : List (String × Nat) := []
  /-- Log records shed by the queue. -/
  droppedRecords : Nat := 0
  /-- Startup hooks that were completed, by name. -/
  hooks : List (String × Nat) := []
  /-- Requests inside the gate, once one was let in. -/
  inFlight : Option Nat := none
  deriving DecidableEq, Inhabited

namespace Meters

def countRejected (m : Meters) (stage : String) : Meters :=
  { m with rejected := bumpCount stage m.rejected }

def countDropped (m : Meters) (n : Nat) : Meters :=
  { m with droppedRecords := m.droppedRecords + n }

def countHook (m : Meters) (hook : String) : Meters :=
  { m with hooks := bumpCount hook m.hooks }

def setInFlight (m : Meters) (n : Nat) : Meters :=
  { m with inFlight := some n }

/-- The name of a meter with its labels. -/
def series (name labels : String) : String :=
  name ++ "\x7b" ++ labels ++ "\x7d"

/-- **The meters that were touched**, with their values. -/
def readings (m : Meters) : List (String × Nat) :=
  m.rejected.map (fun (stage, n) =>
    (series "plughost_requests_rejected_total" s!"stage={stage}", n)) ++
  (if m.droppedRecords = 0 then []
    else [(series "plughost_log_events_dropped_total" "", m.droppedRecords)]) ++
  m.hooks.map (fun (hook, n) => (series "plughost_hooks_executed_total" s!"hook={hook}", n)) ++
  (m.inFlight.toList.map (fun n => (series "plughost_requests_in_flight" "", n)))

end Meters

end ModuleHost
