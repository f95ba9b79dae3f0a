import ModuleHost.Logging.Level
import ModuleHost.Logging.Rolling
import ModuleHost.Machine

/-!
# The queue in front of the log file

Records are handed to a writer through a bounded queue. Nobody waits: a full queue sheds the record
and counts it, and shortly before that it sheds records that matter less.

* `LogQueue.offer`: a producer's call, made of the steps `shed`, `raise`, `send?` and `lower`.
* `LogQueue.receive?`, `LogQueue.work`: the writer's side.
* `LogQueue.stop`: everything queued is written, then the file is flushed.
-/

namespace ModuleHost

/-- Whether a record may be shed to keep room for others. -/
def Severity.isDiscardable : Severity → Bool
  | .trace => true
  | .debug => true
  | .info => true
  | .warn => false
  | .error => false

/-- What travels through the queue. -/
inductive QueueMessage where
  | record (bytes : Bytes)
  | stop
  deriving DecidableEq, Inhabited

/-- **The queue**: the messages in it, the counter that producers look at, the count of records that
were shed, and whether it was stopped. -/
structure LogQueue where
  capacity : Nat
  discardThreshold : Nat
  channel : List QueueMessage := []
  depth : Nat := 0
  dropped : Nat := 0
  stopped : Bool := false
  deriving DecidableEq, Inhabited

namespace LogQueue

/-- An empty queue. It has at least one slot. -/
def ofSettings (queueSize discardThreshold : Nat) : LogQueue where
  capacity := max queueSize 1
  discardThreshold := discardThreshold

/-- Slots that the counter leaves free. -/
def free (q : LogQueue) : Nat :=
  q.capacity - q.depth

/-- Whether a record of a severity is shed to keep room. -/
def mustShed (q : LogQueue) (s : Severity) : Bool :=
  q.free < q.discardThreshold && s.isDiscardable

/-- Count a record that was shed. -/
def shed (q : LogQueue) : LogQueue :=
  { q with dropped := q.dropped + 1 }

/-- Raise the counter before sending. -/
def raise (q : LogQueue) : LogQueue :=
  { q with depth := q.depth + 1 }

/-- Lower the counter. -/
def lower (q : LogQueue) : LogQueue :=
  { q with depth := q.depth - 1 }

/-- Put a message into the queue if there is a slot. -/
def send? (q : LogQueue) (m : QueueMessage) : Option LogQueue :=
  if q.channel.length < q.capacity then some { q with channel := q.channel ++ [m] } else none

/-- **Offer a record.** -/
def offer (q : LogQueue) (s : Severity) (record : Bytes) : LogQueue :=
  if q.stopped then q.shed
  else if q.mustShed s then q.shed
  else
    -- the counter is raised before the record is sent, so it never lags behind the queue
    match q.raise.send? (.record record) with
    | some q => q
    | none => q.raise.lower.shed

/-- The writer takes the oldest message; a record lowers the counter. -/
def receive? (q : LogQueue) : Option (QueueMessage × LogQueue) :=
  match q.channel with
  | [] => none
  | .record r :: rest => some (.record r, { q with channel := rest }.lower)
  | .stop :: rest => some (.stop, { q with channel := rest })

/-- The writer writes one record. -/
def writeOne (f : RollingFile) (record : Bytes) (m : Machine) : RollingFile × Machine :=
  match f.write record m.now m.disk with
  | (r, f, disk) => (f, { m with disk }.complainIf "failed to write log record" r)

/-- The writer writes records one after another. -/
def writeAll : List Bytes → RollingFile → Machine → RollingFile × Machine
  | [], f, m => (f, m)
  | r :: rs, f, m =>
    match writeOne f r m with
    | (f, m) => writeAll rs f m

/-- The records in front of the first stop message. -/
def queuedRecords : List QueueMessage → List Bytes
  | [] => []
  | .record r :: rest => r :: queuedRecords rest
  | .stop :: _ => []

/-- **The writer catches up**: everything that is queued is written. -/
def work (q : LogQueue) (f : RollingFile) (m : Machine) : LogQueue × RollingFile × Machine :=
  let records := queuedRecords q.channel
  let (f, m) := writeAll records f m
  ({ q with channel := [], depth := q.depth - records.length }, f, m)

/-- **Stop**: nothing more is taken, the writer catches up and flushes the file. -/
def stop (q : LogQueue) (f : RollingFile) (m : Machine) : LogQueue × RollingFile × Machine :=
  if q.stopped then (q, f, m)
  else
    let (q, f, m) := { q with stopped := true }.work f m
    match f.flush m.disk with
    | (r, f, disk) => (q, f, { m with disk }.complainIf "failed to flush log file" r)

end LogQueue

end ModuleHost
