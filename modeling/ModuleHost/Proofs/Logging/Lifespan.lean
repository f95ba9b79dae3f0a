import Mathlib
import ModuleHost.Logging.Appender
import ModuleHost.Proofs.Logging.Identity
import ModuleHost.Proofs.Logging.Stand

/-!
# The life of a generation of outputs

A generation of outputs runs until it is stopped, and is retired from then on. What it held back by then is
handed over by the stop, and after it every record is passed over.

* `AppenderSet.Running`, `AppenderSet.Retired`: the two ages of a generation.
* `AppenderSet.Serves`: what records and the writer behind the queue can make of a generation. A retired one
  stays as it is, and so does the machine.
* `AppenderSet.build_ok`: what new outputs are.
* `AppenderSet.retired_stop`: **a stop retires**, whatever fails on the way.
* `AppenderSet.stop_handsOver`: **a stop without complaint loses nothing**: the queue is written in order, and
  then the buffer goes to the file.
-/

namespace ModuleHost

open RollingFile (Call SameLog)

/-! ### Complaints -/

/-- Bytes that are left or collected already are in the list. -/
theorem toList_loop_ne_nil (bytes : ByteArray) (i : Nat) (collected : List UInt8)
    (h : i < bytes.size ∨ collected ≠ []) : ByteArray.toList.loop bytes i collected ≠ [] := by
  fun_induction ByteArray.toList.loop bytes i collected with
  | case1 i collected hi ih => exact ih (.inr (List.cons_ne_nil _ _))
  | case2 i collected hi =>
    rcases h with h | h
    · exact absurd h hi
    · simpa using h

theorem Text.Utf8.encode_ne_nil {text : String} (h : text ≠ "") : Text.Utf8.encode text ≠ [] := by
  have hsize : text.utf8ByteSize ≠ 0 := by simpa using h
  exact toList_loop_ne_nil _ 0 [] (.inl (Nat.pos_of_ne_zero hsize))

namespace Machine

/-- Complaints stay on the error stream. -/
theorem stderr_le_complainIf (m : Machine) (what : String) (x : Except SystemError Unit) :
    m.stderr.length ≤ (m.complainIf what x).stderr.length := by
  cases x with
  | ok u => exact le_refl _
  | error e =>
    show _ ≤ (m.stderr ++ _).length
    rw [List.length_append]
    exact Nat.le_add_right _ _

/-- **A call without complaint was not refused.** -/
theorem complainIf_quiet {m : Machine} {what : String} {x : Except SystemError Unit}
    (h : (m.complainIf what x).stderr.length = m.stderr.length) :
    x = .ok () ∧ m.complainIf what x = m := by
  cases x with
  | ok u => exact ⟨rfl, rfl⟩
  | error e =>
    have hlength : (m.stderr ++ Text.Utf8.encode ("plughost: " ++ (what ++ ": " ++ e.message) ++ "\n")).length =
        m.stderr.length := h
    have hnil : Text.Utf8.encode ("plughost: " ++ (what ++ ": " ++ e.message) ++ "\n") = [] := by
      simpa using hlength
    exact absurd hnil (Text.Utf8.encode_ne_nil (by simp))

/-- Nothing was complained about before either. -/
theorem complainIf_quiet_trans {m₀ m : Machine} {what : String} {x : Except SystemError Unit}
    (hle : m₀.stderr.length ≤ m.stderr.length) (h : (m.complainIf what x).stderr = m₀.stderr) :
    x = .ok () ∧ m.complainIf what x = m ∧ m.stderr = m₀.stderr := by
  have hge := stderr_le_complainIf m what x
  rw [h] at hge
  obtain ⟨hx, hm⟩ := complainIf_quiet (m := m) (x := x) (h ▸ le_antisymm hle hge)
  exact ⟨hx, hm, hm ▸ h⟩

end Machine

/-! ### Handing over -/

namespace RollingFile

/-- **The buffer of a log file is handed over**, and nothing else happens to the disk. -/
def Handed (f : RollingFile) (d d' : Disk) : Prop :=
  match f.writer with
  | some w => Disk.Appended d w.file w.buffer d'
  | none => d' = d

theorem handed_close {f f' : RollingFile} {d d' : Disk} (h : f.close d = (.ok (), f', d')) :
    f.Handed d d' := by
  unfold close at h
  rcases hs : f.settle d with ⟨x, f₁, d₁⟩
  rw [hs] at h
  cases h
  unfold Handed
  cases hw : f.writer with
  | some w => exact (settle_ok hw hs).1
  | none =>
    unfold settle at hs
    rw [hw] at hs
    cases hs
    rfl

/-- A flush leaves nothing for what comes after it. -/
theorem Handed.of_flush {f f₁ : RollingFile} {d d₁ d' : Disk} (hflush : f.flush d = (.ok (), f₁, d₁))
    (h : f₁.Handed d₁ d') : f.Handed d d' := by
  unfold Handed at h ⊢
  cases hw : f.writer with
  | some w =>
    obtain ⟨happ, rfl⟩ := flush_ok hw hflush
    simpa using happ.trans h
  | none =>
    unfold flush at hflush
    rw [hw] at hflush
    cases hflush
    rw [hw] at h
    exact h

end RollingFile

namespace LogQueue

variable {f f' : RollingFile} {m m' : Machine}

/-- **An offer** sheds the record or puts it last in the channel. -/
theorem offer_cases (q : LogQueue) (s : Severity) (record : Bytes) :
    q.offer s record = q.shed ∨
      q.offer s record = { q.raise with channel := q.channel ++ [.record record] } := by
  unfold offer
  split
  · exact Or.inl rfl
  split
  · exact Or.inl rfl
  unfold send?
  split
  · rename_i heq
    split at heq
    · cases heq
      exact Or.inr rfl
    · cases heq
  · exact Or.inl rfl

/-- Offering a record does not stop the queue. -/
theorem stopped_offer (q : LogQueue) (s : Severity) (record : Bytes) :
    (q.offer s record).stopped = q.stopped := by
  rcases offer_cases q s record with h | h
  · rw [h]
    rfl
  · rw [h]
    rfl

/-- An offer brings nothing but a record. -/
theorem records_offer {q : LogQueue} (h : ∀ x ∈ q.channel, ∃ record, x = .record record) (s : Severity)
    (record : Bytes) : ∀ x ∈ (q.offer s record).channel, ∃ record, x = .record record := by
  intro x hx
  rcases q.offer_cases s record with hoffer | hoffer
  · rw [hoffer] at hx
    exact h x hx
  · rw [hoffer] at hx
    rcases List.mem_append.1 hx with hx | hx
    · exact h x hx
    · exact ⟨record, List.mem_singleton.1 hx⟩

/-- A record comes last in a channel of records. -/
theorem queuedRecords_append {channel : List QueueMessage} (record : Bytes)
    (h : ∀ x ∈ channel, ∃ record, x = .record record) :
    queuedRecords (channel ++ [.record record]) = queuedRecords channel ++ [record] := by
  induction channel with
  | nil => rfl
  | cons x channel ih =>
    obtain ⟨first, rfl⟩ := h x List.mem_cons_self
    rw [List.cons_append, queuedRecords, queuedRecords, ih (fun y hy => h y (List.mem_cons_of_mem _ hy)),
      List.cons_append]

/-- Complaints about records stay on the error stream. -/
theorem stderr_le_writeAll (records : List Bytes) (f : RollingFile) (m : Machine) :
    m.stderr.length ≤ (writeAll records f m).2.stderr.length := by
  induction records generalizing f m with
  | nil => exact le_refl _
  | cons record records ih =>
    unfold writeAll writeOne
    rcases f.write record m.now m.disk with ⟨x, f₁, d₁⟩
    exact (Machine.stderr_le_complainIf { m with disk := d₁ } _ x).trans (ih f₁ _)

/-- The writer keeps the log file the one it is. -/
theorem sameLog_writeAll (records : List Bytes) (f : RollingFile) (m : Machine) :
    SameLog f (writeAll records f m).1 := by
  induction records generalizing f m with
  | nil => exact SameLog.refl f
  | cons record records ih =>
    unfold writeAll writeOne
    exact (RollingFile.sameLog_write f record m.now m.disk).trans (ih _ _)

/-- **Records written without complaint** were all taken by the file, one after another. -/
theorem writeAll_quiet {records : List Bytes} {s : Track} (hf : s.file = f) (hd : s.disk = m.disk)
    (h : writeAll records f m = (f', m')) (hquiet : m'.stderr.length = m.stderr.length) :
    ∃ s', s.run (records.map (fun record => Call.write record m.now)) = .ok s' ∧ s'.file = f' ∧
      s'.disk = m'.disk ∧ m' = { m with disk := m'.disk } := by
  induction records generalizing s f m with
  | nil =>
    cases h
    exact ⟨s, rfl, hf, hd, rfl⟩
  | cons record records ih =>
    unfold writeAll writeOne at h
    rcases hw : f.write record m.now m.disk with ⟨x, f₁, d₁⟩
    rw [hw] at h
    simp only at h
    have hle := Machine.stderr_le_complainIf { m with disk := d₁ } "failed to write log record" x
    have hle' := stderr_le_writeAll records f₁
      (({ m with disk := d₁ } : Machine).complainIf "failed to write log record" x)
    rw [h] at hle'
    obtain ⟨rfl, hm₁⟩ := Machine.complainIf_quiet (le_antisymm (hle'.trans hquiet.le) hle)
    rw [hm₁] at h
    -- the record was taken, with a roll or without
    obtain ⟨s₁, htake, hf₁, hd₁⟩ : ∃ s₁, s.take (.write record m.now) = .ok s₁ ∧ s₁.file = f₁ ∧
        s₁.disk = d₁ := by
      unfold Track.take
      simp only [hf, hd, hw]
      split
      · exact ⟨_, rfl, rfl, rfl⟩
      · exact ⟨_, rfl, rfl, rfl⟩
    obtain ⟨s', hrun, hf', hd', hm'⟩ := ih hf₁ hd₁ h hquiet
    exact ⟨s', Track.run_cons_ok_iff.2 ⟨s₁, htake, hrun⟩, hf', hd', hm'⟩

/-- Complaints of a stop stay on the error stream. -/
theorem stderr_le_stop (q : LogQueue) (f : RollingFile) (m : Machine) :
    m.stderr.length ≤ (q.stop f m).2.2.stderr.length := by
  unfold stop
  split
  · exact le_refl _
  · have h := stderr_le_writeAll (queuedRecords q.channel) f m
    unfold work
    simp only
    refine le_trans' (Machine.stderr_le_complainIf _ _ _) ?_
    exact h

/-- **A queue that is stopped without complaint** has its records written, and the file flushed after
them. -/
theorem stop_quiet {q q' : LogQueue} (hq : q.stopped = false) (h : q.stop f m = (q', f', m'))
    (hquiet : m'.stderr = m.stderr) :
    ∃ s, Track.run { file := f, disk := m.disk }
        ((queuedRecords q.channel).map (fun record => Call.write record m.now)) = .ok s ∧
      s.file.flush s.disk = (.ok (), f', m'.disk) ∧ m' = { m with disk := m'.disk } := by
  unfold stop at h
  rw [if_neg (by simp [hq])] at h
  unfold work at h
  simp only at h
  rcases hw : writeAll (queuedRecords q.channel) f m with ⟨f₁, m₁⟩
  rw [hw] at h
  rcases hflush : f₁.flush m₁.disk with ⟨x, f₂, d⟩
  simp only [hflush] at h
  cases h
  have hle := stderr_le_writeAll (queuedRecords q.channel) f m
  rw [hw] at hle
  obtain ⟨rfl, hm, hquiet₁⟩ := Machine.complainIf_quiet_trans (m := { m₁ with disk := d }) hle hquiet
  obtain ⟨s, hrun, rfl, hd, hm₁⟩ :=
    writeAll_quiet (s := { file := f, disk := m.disk }) rfl rfl hw (congrArg List.length hquiet₁)
  refine ⟨s, hrun, ?_, ?_⟩
  · rw [hm, hd]
    exact hflush
  · rw [hm, hm₁]

end LogQueue

/-! ### Running and retired -/

namespace AppenderSet

/-- **Outputs that take records.** -/
structure Running (a : AppenderSet) : Prop where
  notStopped : a.stopped = false
  queue : ∀ q, a.queue = some q → q.stopped = false
  file : a.file.closed = false

/-- **Outputs that take no record any more**: they were stopped, nothing is queued or buffered, and the file
is closed. -/
structure Retired (a : AppenderSet) : Prop where
  stopped : a.stopped = true
  queue : ∀ q, a.queue = some q → q.stopped = true ∧ q.channel = []
  writer : a.file.writer = none
  closed : a.file.closed = true

/-- **What serving can make of outputs** and of the machine: running outputs stay so, and retired ones change
nothing. -/
structure Serves (a : AppenderSet) (m : Machine) (a' : AppenderSet) (m' : Machine) : Prop where
  generation : a'.generation = a.generation
  running : a.Running → a'.Running
  retired : a.Retired → a' = a ∧ m' = m

variable {a a' : AppenderSet} {m m' : Machine}

theorem Serves.refl (a : AppenderSet) (m : Machine) : Serves a m a m :=
  ⟨rfl, id, fun _ => ⟨rfl, rfl⟩⟩

theorem Serves.trans {a'' : AppenderSet} {m'' : Machine} (h : Serves a m a' m')
    (h' : Serves a' m' a'' m'') : Serves a m a'' m'' := by
  refine ⟨h'.generation.trans h.generation, fun hr => h'.running (h.running hr), fun hr => ?_⟩
  obtain ⟨rfl, rfl⟩ := h.retired hr
  exact h'.retired hr

/-- Outputs that are not retired, with their file in another state. -/
theorem serves_file {f : RollingFile} (hf : SameLog a.file f) (hnot : ¬ a.Retired) :
    Serves a m { a with file := f } m' :=
  ⟨rfl, fun hr => ⟨hr.notStopped, hr.queue, hf.closed.trans hr.file⟩, fun hr => absurd hr hnot⟩

/-- Without a queue a record goes to the file at once. -/
theorem writeFile_direct (hs : a.stopped = false) (hq : a.queue = none) (s : Severity) (record : Bytes)
    (m : Machine) :
    a.writeFile s record m = ((a.file.write record m.now m.disk).1,
      { a with file := (a.file.write record m.now m.disk).2.1 },
      { m with disk := (a.file.write record m.now m.disk).2.2 }) := by
  unfold writeFile
  rw [if_neg (by simp [hs])]
  split
  · rfl
  · rename_i hq'
    rw [hq] at hq'
    cases hq'

/-- With a queue a record is offered to it. -/
theorem writeFile_queued {q : LogQueue} (hs : a.stopped = false) (hq : a.queue = some q) (s : Severity)
    (record : Bytes) (m : Machine) :
    a.writeFile s record m = (.ok (), { a with queue := some (q.offer s record) },
      { m with meters := m.meters.countDropped ((q.offer s record).dropped - q.dropped) }) := by
  unfold writeFile
  rw [if_neg (by simp [hs]), hq]

/-- **A record to one of the outputs.** -/
theorem serves_writeTo (sink : Sink) (s : Severity) (record : Bytes) (a : AppenderSet) (m : Machine) :
    Serves a m (a.writeTo sink s record m).2.1 (a.writeTo sink s record m).2.2 := by
  cases hs : a.stopped with
  | true =>
    have hpassed : a.writeTo sink s record m = (.ok (), a, m) := by
      cases sink <;> simp [writeTo, writeConsole, writeFile, hs]
    rw [hpassed]
    exact Serves.refl a m
  | false =>
    have hnot : ¬ a.Retired := fun hr => by simp [hr.stopped] at hs
    cases sink with
    | console =>
      have heq : (a.writeConsole record m).2.1 = a := by
        unfold writeConsole
        rw [if_neg (by simp [hs])]
        split <;> rfl
      show Serves a m (a.writeConsole record m).2.1 _
      rw [heq]
      exact ⟨rfl, id, fun hr => absurd hr hnot⟩
    | file =>
      show Serves a m (a.writeFile s record m).2.1 (a.writeFile s record m).2.2
      cases hq : a.queue with
      | none =>
        rw [writeFile_direct hs hq]
        exact serves_file (RollingFile.sameLog_write a.file record m.now m.disk) hnot
      | some q =>
        rw [writeFile_queued hs hq]
        refine ⟨rfl, fun hr => ⟨hr.notStopped, ?_, hr.file⟩, fun hr => absurd hr hnot⟩
        intro q' hq'
        cases hq'
        exact (LogQueue.stopped_offer q s record).trans (hr.queue q hq)

/-- **Copies of a record.** -/
theorem serves_writeCopies (sink : Sink) (s : Severity) (record : Bytes) (n : Nat) (a : AppenderSet)
    (m : Machine) :
    Serves a m (writeCopies sink s record n a m).2.1 (writeCopies sink s record n a m).2.2 := by
  induction n generalizing a m with
  | zero => exact Serves.refl a m
  | succ n ih =>
    have h := serves_writeTo sink s record a m
    unfold writeCopies
    split
    · rename_i heq
      rw [heq] at h
      exact h
    · rename_i a₁ m₁ heq
      rw [heq] at h
      exact h.trans (ih a₁ m₁)

/-- **The writer behind the queue** finds nothing to do once the outputs are retired. -/
theorem serves_work (a : AppenderSet) (m : Machine) : Serves a m (a.work m).1 (a.work m).2 := by
  unfold work
  split
  · exact Serves.refl a m
  · rename_i q hq
    refine ⟨rfl, fun hr => ⟨hr.notStopped, ?_, ?_⟩, fun hr => ?_⟩
    · intro q' hq'
      cases hq'
      exact hr.queue q hq
    · exact (LogQueue.sameLog_writeAll _ a.file m).closed.trans hr.file
    · -- nothing is queued, so no record is counted off either
      have hnil := (hr.queue q hq).2
      unfold LogQueue.work
      simp only [hnil, LogQueue.queuedRecords, LogQueue.writeAll, List.length_nil, Nat.sub_zero]
      have hqq : ({ q with channel := [] } : LogQueue) = q := by rw [← hnil]
      rw [hqq, ← hq]
      exact ⟨rfl, trivial⟩

/-! ### Building -/

/-- **New outputs** have the file of their settings open, and an empty queue if one is asked for. -/
theorem build_ok {l : Settings.Logging} {g : Nat} (h : build l g m = (.ok a, m')) :
    ∃ d, RollingFile.openAt l.file.path (policyOf l.file) l.file.immediateFlush m.now m.fileTime m.disk =
        (.ok a.file, d) ∧ m' = { m with disk := d } ∧
      a.queue = (if l.async.enabled then
        some (LogQueue.ofSettings l.async.queueSize l.async.discardThreshold) else none) ∧
      a.generation = g ∧ a.stopped = false := by
  unfold build at h
  split at h
  · cases h
  rename_i file d hopen
  unfold startQueue at h
  cases hasync : l.async.enabled with
  | false =>
    rw [hasync] at h
    cases h
    exact ⟨d, hopen, rfl, rfl, rfl, rfl⟩
  | true =>
    cases hthread : m.threadRefusal with
    | some e =>
      rw [hasync, hthread] at h
      cases h
    | none =>
      rw [hasync, hthread] at h
      cases h
      exact ⟨d, hopen, rfl, rfl, rfl, rfl⟩

/-- The queue of new outputs is empty and takes records. -/
theorem queue_build {l : Settings.Logging} {g : Nat} {q : LogQueue} (h : build l g m = (.ok a, m'))
    (hq : a.queue = some q) : q.stopped = false ∧ q.channel = [] := by
  obtain ⟨d, -, -, hqueue, -, -⟩ := build_ok h
  rw [hqueue] at hq
  split at hq
  · rw [← Option.some.inj hq]
    exact ⟨rfl, rfl⟩
  · cases hq

/-- **New outputs run.** -/
theorem running_build {l : Settings.Logging} {g : Nat} (h : build l g m = (.ok a, m')) : a.Running := by
  obtain ⟨d, hopen, -, -, -, hstopped⟩ := build_ok h
  obtain ⟨d₁, x, i, -, -, -, hfile⟩ := RollingFile.openAt_ok hopen
  exact ⟨hstopped, fun q hq => (queue_build h hq).1, by rw [hfile]⟩

theorem generation_build {l : Settings.Logging} {g : Nat} (h : build l g m = (.ok a, m')) : a.generation = g := by
  obtain ⟨d, -, -, -, hgeneration, -⟩ := build_ok h
  exact hgeneration

/-- Nobody complains while outputs are built. -/
theorem stderr_build (l : Settings.Logging) (g : Nat) (m : Machine) : (build l g m).2.stderr = m.stderr := by
  unfold build
  split
  · rfl
  · split <;> rfl

/-! ### Stopping -/

/-- The records in the queue, if there is one. -/
def queued (a : AppenderSet) : List Bytes :=
  match a.queue with
  | none => []
  | some q => LogQueue.queuedRecords q.channel

theorem queued_of_none (hq : a.queue = none) : a.queued = [] := by
  unfold queued
  rw [hq]

theorem queued_of_some {q : LogQueue} (hq : a.queue = some q) : a.queued = LogQueue.queuedRecords q.channel := by
  unfold queued
  rw [hq]

/-- Nothing waits in new outputs. -/
theorem queued_build {l : Settings.Logging} {g : Nat} (h : build l g m = (.ok a, m')) : a.queued = [] := by
  cases hq : a.queue with
  | none => exact queued_of_none hq
  | some q =>
    rw [queued_of_some hq, (queue_build h hq).2]
    rfl

/-- **Outputs hand over what they held back**: the queued records are written one after another, none of them
refused, and then what is buffered goes to the file. The machine changes in nothing but its disk. -/
def HandsOver (a : AppenderSet) (m m' : Machine) : Prop :=
  ∃ s, Track.run { file := a.file, disk := m.disk } (a.queued.map (fun record => Call.write record m.now)) =
      .ok s ∧
    s.file.Handed s.disk m'.disk ∧ m' = { m with disk := m'.disk }

/-- Without a queue, only what is buffered is handed over. -/
theorem HandsOver.handed (h : a.HandsOver m m') (hq : a.queue = none) : a.file.Handed m.disk m'.disk := by
  obtain ⟨s, hrun, hhanded, -⟩ := h
  rw [queued_of_none hq] at hrun
  cases hrun
  exact hhanded

theorem generation_stop (a : AppenderSet) (m : Machine) : (a.stop m).1.generation = a.generation := by
  unfold stop
  split <;> rfl

/-- **A stop retires** running outputs, whatever fails on the way. -/
theorem retired_stop (h : a.Running) (m : Machine) : (a.stop m).1.Retired := by
  unfold stop
  rw [if_neg (by simp [h.notStopped])]
  cases hq : a.queue with
  | none =>
    simp only [RollingFile.close_eq]
    exact ⟨rfl, by simp, rfl, rfl⟩
  | some q =>
    simp only [RollingFile.close_eq]
    refine ⟨rfl, ?_, rfl, rfl⟩
    intro q' hq'
    cases hq'
    unfold LogQueue.stop
    rw [if_neg (by simp [h.queue q hq])]
    exact ⟨rfl, rfl⟩

/-- **A stop without complaint hands over** what running outputs held back. -/
theorem stop_handsOver (h : a.Running) (hquiet : (a.stop m).2.stderr = m.stderr) :
    a.HandsOver m (a.stop m).2 := by
  unfold stop at hquiet ⊢
  rw [if_neg (by simp [h.notStopped])] at hquiet ⊢
  unfold HandsOver queued
  cases hq : a.queue with
  | none =>
    simp only [hq] at hquiet ⊢
    rcases hc : a.file.close m.disk with ⟨x, f, d⟩
    simp only [hc] at hquiet ⊢
    obtain ⟨rfl, hm⟩ := Machine.complainIf_quiet (m := { m with disk := d }) (congrArg List.length hquiet)
    rw [hm]
    exact ⟨_, rfl, RollingFile.handed_close hc, rfl⟩
  | some q =>
    simp only [hq] at hquiet ⊢
    rcases hs : q.stop a.file m with ⟨q₁, f₁, m₁⟩
    simp only [hs] at hquiet ⊢
    rcases hc : f₁.close m₁.disk with ⟨x, f₂, d⟩
    simp only [hc] at hquiet ⊢
    -- what the queue complained about would still be seen after the close
    have hle := LogQueue.stderr_le_stop q a.file m
    rw [hs] at hle
    obtain ⟨hx, hm, hquiet₁⟩ := Machine.complainIf_quiet_trans (m := { m₁ with disk := d }) hle hquiet
    rw [hx] at hc
    obtain ⟨s, hrun, hflush, hm₁⟩ := LogQueue.stop_quiet (h.queue q hq) hs hquiet₁
    rw [hm]
    refine ⟨s, hrun, .of_flush hflush (RollingFile.handed_close hc), ?_⟩
    rw [hm₁]

end AppenderSet

end ModuleHost
