import Mathlib
import ModuleHost.Proofs.Logging.Lifespan
import ModuleHost.Proofs.Registry.Frame

/-!
# What settings decide about outputs

Of outputs, some things are settled when they are built: the stream of the console, where the log file is and when
it rolls over, and how long the queue is. The rest depends on the records that come.

* `OutputPlan`: what is settled. `Settings.Logging.plan`: as the settings say. `AppenderSet.plan`: as the outputs
  have it.
* `AppenderSet.plan_build`: **new outputs are as their settings say**.
* `AppenderSet.fixed_plan`: and no record changes that.
-/

namespace ModuleHost

/-- **What is settled about outputs.** The name of the log file is missing if its path has none. -/
structure OutputPlan where
  stream : ConsoleStream
  path : String
  dir : String
  name : Option LogName
  policy : RollingPolicy
  immediateFlush : Bool
  /-- The slots of the queue, and how many of them are kept free for records that matter more. -/
  queue : Option (Nat × Nat)
  deriving DecidableEq

/-- The outputs that a logging section asks for. -/
def Settings.Logging.plan (l : Settings.Logging) : OutputPlan where
  stream := l.console.target
  path := l.file.path
  dir := RollingFile.dirOf l.file.path
  name := (Path.stem? l.file.path).map (fun stem => ⟨stem, Path.extension? l.file.path⟩)
  policy := AppenderSet.policyOf l.file
  immediateFlush := l.file.immediateFlush
  queue := if l.async.enabled then some (max l.async.queueSize 1, l.async.discardThreshold) else none

/-- What is settled about a log file that was opened. It has the name of its path, or it would not be open. -/
theorem RollingFile.settled_openAt {path : String} {policy : RollingPolicy} {immediateFlush : Bool}
    {now modified : Instant} {d d' : Disk} {f : RollingFile}
    (h : openAt path policy immediateFlush now modified d = (.ok f, d')) :
    (Path.stem? path).map (fun stem => (⟨stem, Path.extension? path⟩ : LogName)) = some f.name ∧
      f.path = path ∧ f.dir = dirOf path ∧ f.policy = policy ∧ f.immediateFlush = immediateFlush := by
  unfold openAt at h
  split at h
  · cases h
  split at h
  · cases h
  rename_i stem hstem
  split at h
  · cases h
  rw [hstem]
  cases h
  exact ⟨rfl, rfl, rfl, rfl, rfl⟩

namespace LogQueue

theorem capacity_offer (q : LogQueue) (s : Severity) (record : Bytes) :
    (q.offer s record).capacity = q.capacity ∧ (q.offer s record).discardThreshold = q.discardThreshold := by
  rcases q.offer_cases s record with h | h
  · rw [h]
    exact ⟨rfl, rfl⟩
  · rw [h]
    exact ⟨rfl, rfl⟩

end LogQueue

namespace AppenderSet

open RollingFile (SameLog)

variable {a : AppenderSet} {m m' : Machine}

/-- What is settled about these outputs. -/
def plan (a : AppenderSet) : OutputPlan where
  stream := a.stream
  path := a.file.path
  dir := a.file.dir
  name := some a.file.name
  policy := a.file.policy
  immediateFlush := a.file.immediateFlush
  queue := a.queue.map (fun q => (q.capacity, q.discardThreshold))

/-- The log file in another state. -/
theorem plan_congr {f : RollingFile} {queue : Option LogQueue} (hf : SameLog a.file f)
    (hq : queue.map (fun q => (q.capacity, q.discardThreshold)) =
      a.queue.map (fun q => (q.capacity, q.discardThreshold))) :
    ({ a with file := f, queue } : AppenderSet).plan = a.plan := by
  unfold plan
  simp only [hf.path, hf.dir, hf.name, hf.policy, hf.immediateFlush, hq]

theorem plan_writeFile (s : Severity) (record : Bytes) (a : AppenderSet) (m : Machine) :
    (a.writeFile s record m).2.1.plan = a.plan := by
  cases hs : a.stopped with
  | true =>
    unfold writeFile
    rw [if_pos hs]
  | false =>
    cases hq : a.queue with
    | none =>
      rw [writeFile_direct hs hq]
      exact plan_congr (RollingFile.sameLog_write a.file record m.now m.disk) rfl
    | some q =>
      obtain ⟨hcapacity, hthreshold⟩ := q.capacity_offer s record
      rw [writeFile_queued hs hq]
      refine plan_congr (SameLog.refl a.file) ?_
      simp [hq, hcapacity, hthreshold]

theorem plan_work (a : AppenderSet) (m : Machine) : (a.work m).1.plan = a.plan := by
  unfold work
  split
  · rfl
  · rename_i q hq
    refine plan_congr (LogQueue.sameLog_writeAll _ a.file m) ?_
    rw [hq]
    rfl

/-- **No record changes** what is settled. -/
theorem fixed_plan : Fixed plan := by
  refine ⟨fun sink s record a m => ?_, plan_work⟩
  cases sink with
  | console =>
    have hsame : (a.writeConsole record m).2.1 = a := by
      unfold writeConsole
      split
      · rfl
      · split <;> rfl
    exact congrArg plan hsame
  | file => exact plan_writeFile s record a m

/-- **New outputs are as their settings say.** -/
theorem plan_build {l : Settings.Logging} {g : Nat} (h : build l g m = (.ok a, m')) : a.plan = l.plan := by
  have hstream : a.stream = l.console.target := by
    unfold build at h
    split at h
    · cases h
    · split at h
      · cases h
      · cases h
        rfl
  obtain ⟨d, hopen, -, hqueue, -, -⟩ := build_ok h
  obtain ⟨hname, hpath, hdir, hpolicy, hflush⟩ := RollingFile.settled_openAt hopen
  unfold plan Settings.Logging.plan
  rw [hstream, hpath, hdir, hpolicy, hflush, hname, hqueue]
  cases l.async.enabled <;> rfl

end AppenderSet

end ModuleHost
