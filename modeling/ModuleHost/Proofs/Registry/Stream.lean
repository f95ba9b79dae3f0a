import Mathlib
import ModuleHost.Proofs.Registry.Generations

/-!
# The stream of records to the log file

Records that go to the log file of a registry, over all generations of its outputs, with the resets in between,
on a machine where nothing fails. The writer behind a queue is a thread of its own, so it takes its messages
one at a time, whenever it pleases.

* `Stream.run`: a registry through a list of acts, up to the first that meets an error. It remembers the records
  that were accepted.
* `Stream.Throughout`: what is to hold whenever an act begins.
* `Stream.Live`: the outputs that are live.
* `Stream.Live.take`: **what each act does** to the live outputs and to the disk, said once.
-/

namespace ModuleHost

/-! ### One message -/

/-- **The writer takes the oldest message**, and writes it if it is a record. -/
def LogQueue.workOne (q : LogQueue) (f : RollingFile) (m : Machine) :
    LogQueue × RollingFile × Machine :=
  match q.receive? with
  | some (.record r, q) =>
    match LogQueue.writeOne f r m with
    | (f, m) => (q, f, m)
  | some (.stop, q) => (q, f, m)
  | none => (q, f, m)

namespace AppenderSet

variable {a : AppenderSet} {m : Machine}

/-- The writer behind the queue takes one message. -/
def workOne (a : AppenderSet) (m : Machine) : AppenderSet × Machine :=
  match a.queue with
  | none => (a, m)
  | some q =>
    match q.workOne a.file m with
    | (q, file, m) => ({ a with queue := some q, file }, m)

/-- Whether a record is taken, and not shed. -/
def accepts (a : AppenderSet) (s : Severity) (record : Bytes) : Bool :=
  !a.stopped &&
    match a.queue with
    | none => true
    | some q => (q.offer s record).dropped == q.dropped

/-- **One message** keeps running outputs running, and is none for retired ones. -/
theorem serves_workOne (a : AppenderSet) (m : Machine) : Serves a m (a.workOne m).1 (a.workOne m).2 := by
  unfold workOne
  split
  · exact Serves.refl a m
  rename_i q hq
  have hlog : RollingFile.SameLog a.file (q.workOne a.file m).2.1 := by
    unfold LogQueue.workOne
    split
    · exact RollingFile.sameLog_write _ _ _ _
    · exact RollingFile.SameLog.refl _
    · exact RollingFile.SameLog.refl _
  have hstopped : (q.workOne a.file m).1.stopped = q.stopped := by
    unfold LogQueue.workOne LogQueue.receive?
    split
    · rename_i heq
      split at heq <;> cases heq
      rfl
    · rename_i heq
      split at heq <;> cases heq
      rfl
    · rfl
  refine ⟨rfl, fun hr => ⟨hr.notStopped, ?_, hlog.closed.trans hr.file⟩, fun hr => ?_⟩
  · intro q' hq'
    obtain rfl := Option.some.inj hq'
    exact hstopped.trans (hr.queue q hq)
  · -- the queue of retired outputs is empty
    have hnil := (hr.queue q hq).2
    unfold LogQueue.workOne LogQueue.receive?
    rw [hnil]
    simp only
    rw [← hq]
    exact ⟨rfl, trivial⟩

/-- **One message without complaint**: there was none, or it was a record, and the file took it. -/
theorem workOne_quiet {a' : AppenderSet} {m' : Machine}
    (hrecords : ∀ q, a.queue = some q → ∀ x ∈ q.channel, ∃ record, x = .record record)
    (h : a.workOne m = (a', m')) (hquiet : m'.stderr = m.stderr) :
    a' = a ∧ m' = m ∨
      ∃ q record rest f, a.queue = some q ∧ q.channel = .record record :: rest ∧
        a.file.write record m.now m.disk = (.ok (), f, m'.disk) ∧ m'.now = m.now ∧
        a' = { a with queue := some { q with channel := rest }.lower, file := f } := by
  unfold workOne at h
  cases hq : a.queue with
  | none =>
    simp only [hq] at h
    cases h
    exact Or.inl ⟨rfl, rfl⟩
  | some q =>
    simp only [hq] at h
    unfold LogQueue.workOne LogQueue.receive? at h
    cases hch : q.channel with
    | nil =>
      simp only [hch] at h
      rw [← hq] at h
      cases h
      exact Or.inl ⟨rfl, rfl⟩
    | cons x rest =>
      obtain ⟨record, rfl⟩ := hrecords q hq x (by rw [hch]; exact List.mem_cons_self)
      simp only [hch, LogQueue.writeOne] at h
      rcases hwrite : a.file.write record m.now m.disk with ⟨y, f, d⟩
      simp only [hwrite] at h
      cases h
      -- a failure would have been complained about
      obtain ⟨rfl, hm⟩ := Machine.complainIf_quiet (m := { m with disk := d }) (congrArg List.length hquiet)
      rw [hm]
      exact Or.inr ⟨q, record, rest, f, rfl, hch, hwrite, rfl, rfl⟩

/-- One copy is one call. -/
theorem writeCopies_one_ok {sink : Sink} {s : Severity} {record : Bytes} {a' : AppenderSet} {m' : Machine}
    (h : writeCopies sink s record 1 a m = (.ok (), a', m')) : a.writeTo sink s record m = (.ok (), a', m') := by
  unfold writeCopies at h
  split at h
  · cases h
  · rename_i heq
    rw [heq]
    exact h

end AppenderSet

/-- The writer behind the queue of a generation takes one message. -/
def Registry.workOne (r : Registry) (g : Nat) (m : Machine) : Registry × Machine :=
  match r.set? g with
  | none => (r, m)
  | some a =>
    match a.workOne m with
    | (a, m) => (r.putSet a, m)

/-- Whether a generation takes a record. -/
def Registry.accepts (r : Registry) (g : Nat) (s : Severity) (record : Bytes) : Bool :=
  (r.set? g).any (fun a => a.accepts s record)

/-! ### Acts -/

/-- **What happens** to the outputs of an active registry. -/
inductive Act where
  /-- A record to the log file by way of a generation, live or not. -/
  | write (generation : Nat) (s : Severity) (record : Bytes)
  /-- The writer behind the queue of a generation takes one message. -/
  | work (generation : Nat)
  | reset
  /-- The clock goes on. A file with content shows another time of its last change. -/
  | tick (now fileTime : Instant)

/-- **A registry on its machine**, with the records that were accepted so far. -/
structure Stream where
  registry : Registry
  machine : Machine
  accepted : List Bytes := []

namespace Stream

/-- **One act**, if nothing fails. The writer and the stop of outputs have nobody to answer to and complain on
the error stream, so nothing failed there if nothing was said. -/
def take (s : Stream) : Act → Option Stream
  | .write g severity record =>
    match s.registry.writeThrough g .file 1 severity record s.machine with
    | (.error _, _, _) => none
    | (.ok (), r, m) =>
      some {
        registry := r
        machine := m
        accepted := s.accepted ++ if s.registry.accepts g severity record then [record] else [] }
  | .work g =>
    match s.registry.workOne g s.machine with
    | (r, m) => if m.stderr = s.machine.stderr then some { s with registry := r, machine := m } else none
  | .reset =>
    match s.registry.reset s.machine with
    | (.error _, _) => none
    | (.ok r, m) => if m.stderr = s.machine.stderr then some { s with registry := r, machine := m } else none
  | .tick now fileTime => some { s with machine := { s.machine with now, fileTime } }

/-- **Some acts**, if nothing fails. -/
def run (s : Stream) : List Act → Option Stream
  | [] => some s
  | act :: acts => (s.take act).bind (fun s => s.run acts)

/-- **Throughout a run**, whenever an act begins. -/
def Throughout (P : Stream → Act → Prop) : Stream → List Act → Prop
  | _, [] => True
  | s, act :: acts =>
    P s act ∧
      match s.take act with
      | none => True
      | some s => Throughout P s acts

instance decidableThroughout (P : Stream → Act → Prop) [∀ s act, Decidable (P s act)] :
    ∀ (s : Stream) (acts : List Act), Decidable (Throughout P s acts)
  | _, [] => isTrue trivial
  | s, act :: acts =>
    have : Decidable (match s.take act with
        | none => True
        | some s => Throughout P s acts) :=
      match s.take act with
      | none => isTrue trivial
      | some s => decidableThroughout P s acts
    inferInstanceAs (Decidable (P s act ∧ _))

/-- What holds whenever it is asked for holds throughout. -/
theorem throughout_of_forall {P : Stream → Act → Prop} (hP : ∀ s act, P s act) (acts : List Act) :
    ∀ s, Throughout P s acts := by
  induction acts with
  | nil => exact fun _ => trivial
  | cons act acts ih =>
    intro s
    refine ⟨hP s act, ?_⟩
    split
    · trivial
    · exact ih _

/-- **What holds at first and is kept by every act holds in the end.** -/
theorem run_induction {P : Stream → Act → Prop} {Q : Stream → Prop}
    (hstep : ∀ s act s', Q s → P s act → s.take act = some s' → Q s') {acts : List Act} :
    ∀ {s s' : Stream}, Q s → Throughout P s acts → s.run acts = some s' → Q s' := by
  induction acts with
  | nil =>
    intro s s' hs _ hr
    cases hr
    exact hs
  | cons act acts ih =>
    intro s s' hs hP hr
    obtain ⟨s₁, ht, hr⟩ := Option.bind_eq_some_iff.1 hr
    obtain ⟨hact, hrest⟩ := hP
    rw [ht] at hrest
    exact ih (hstep s act s₁ hs hact ht) hrest hr

/-! ### The live outputs -/

/-- **The outputs that are live**, under settings that stay. Nothing but records is in their queue. -/
structure Live (config : Settings.Logging) (s : Stream) (a : AppenderSet) : Prop where
  one : s.registry.OneLive
  active : s.registry.state = .active
  config : s.registry.config = config
  set : s.registry.set? s.registry.generation = some a
  records : ∀ q, a.queue = some q → ∀ x ∈ q.channel, ∃ record, x = .record record

/-- **What an act can make** of the live outputs and of the disk. -/
inductive Effect (config : Settings.Logging) (s : Stream) (a : AppenderSet) (s' : Stream) :
    Act → AppenderSet → Prop where
  /-- Outputs that are retired were asked, or there was no message. -/
  | passed {act : Act} : s'.machine.disk = s.machine.disk → s'.machine.now = s.machine.now →
      s'.accepted = s.accepted → Effect config s a s' act a
  /-- Without a queue the record goes to the file. -/
  | written {g : Nat} {severity : Severity} {record : Bytes} {f : RollingFile} : a.queue = none →
      a.file.write record s.machine.now s.machine.disk = (.ok (), f, s'.machine.disk) →
      s'.machine.now = s.machine.now → s'.accepted = s.accepted ++ [record] →
      Effect config s a s' (.write g severity record) { a with file := f }
  /-- With a queue the record is offered to it. -/
  | offered {g : Nat} {severity : Severity} {record : Bytes} {q : LogQueue} : a.queue = some q →
      s'.machine.disk = s.machine.disk → s'.machine.now = s.machine.now →
      s'.accepted = s.accepted ++ (if (q.offer severity record).dropped = q.dropped then [record] else []) →
      Effect config s a s' (.write g severity record) { a with queue := some (q.offer severity record) }
  /-- The oldest record goes from the queue to the file. -/
  | worked {g : Nat} {record : Bytes} {rest : List QueueMessage} {q : LogQueue} {f : RollingFile} :
      a.queue = some q → q.channel = .record record :: rest →
      a.file.write record s.machine.now s.machine.disk = (.ok (), f, s'.machine.disk) →
      s'.machine.now = s.machine.now → s'.accepted = s.accepted →
      Effect config s a s' (.work g) { a with queue := some { q with channel := rest }.lower, file := f }
  /-- The next outputs are opened, and then the ones before them hand over. -/
  | renewed {b : AppenderSet} {m : Machine} :
      AppenderSet.build config (s.registry.generation + 1) s.machine = (.ok b, m) →
      a.HandsOver m s'.machine → s'.accepted = s.accepted → Effect config s a s' .reset b
  | ticked {now fileTime : Instant} : s'.machine = { s.machine with now, fileTime } →
      s'.accepted = s.accepted → Effect config s a s' (.tick now fileTime) a

namespace Live

variable {config : Settings.Logging} {s s' : Stream} {a a' : AppenderSet} {act : Act}

theorem attached (h : Live config s a) : s.registry.tree.attached = some s.registry.generation := by
  rw [h.one.attached, if_pos h.active]

theorem live? (h : Live config s a) : s.registry.live? = some a := by
  unfold Registry.live?
  rw [h.attached]
  exact h.set

theorem running (h : Live config s a) : a.Running :=
  h.one.running _ a h.set h.attached

/-- Only the last generation is live. -/
theorem retired {g : Nat} {b : AppenderSet} (h : Live config s a) (hg : g ≠ s.registry.generation)
    (hb : s.registry.set? g = some b) : b.Retired := by
  refine h.one.retired g b hb (fun hatt => hg ?_)
  rw [h.attached] at hatt
  exact (Option.some.inj hatt).symm

/-- **Live outputs that served** are live as they are now. -/
theorem serve {m : Machine} {accepted : List Bytes} (h : Live config s a) (hs : a.Serves s.machine a' m)
    (hrecords : ∀ q, a'.queue = some q → ∀ x ∈ q.channel, ∃ record, x = .record record) :
    Live config { registry := s.registry.putSet a', machine := m, accepted } a' := by
  have hgo := Registry.ongoing_putSet h.set hs
  have hgen : a'.generation = s.registry.generation :=
    hs.generation.trans (Registry.generation_of_set? h.set)
  refine ⟨h.one.congr hgo, h.active, h.config, ?_, hrecords⟩
  show (s.registry.putSet a').set? s.registry.generation = some a'
  rw [Registry.set?_putSet, if_pos hgen, h.set]
  rfl

/-- What is live is a matter of the registry. -/
theorem congr (h : Live config s a) (hr : s'.registry = s.registry) : Live config s' a := by
  obtain ⟨registry, machine, accepted⟩ := s'
  obtain rfl : registry = s.registry := hr
  exact ⟨h.one, h.active, h.config, h.set, h.records⟩

/-- Outputs that are not live change nothing by serving. -/
theorem putSet_of_retired {g : Nat} {b b' : AppenderSet} {m : Machine} (h : Live config s a)
    (hg : g ≠ s.registry.generation) (hb : s.registry.set? g = some b)
    (hs : b.Serves s.machine b' m) : s.registry.putSet b' = s.registry ∧ m = s.machine := by
  obtain ⟨rfl, rfl⟩ := hs.retired (h.retired hg hb)
  exact ⟨h.one.putSet_self hb, rfl⟩

/-- A record by way of another generation is passed over. -/
theorem writeThrough_of_ne {g : Nat} (h : Live config s a) (hg : g ≠ s.registry.generation) (severity : Severity)
    (record : Bytes) :
    (s.registry.writeThrough g .file 1 severity record s.machine).2 = (s.registry, s.machine) ∧
      s.registry.accepts g severity record = false := by
  unfold Registry.writeThrough Registry.accepts
  cases hb : s.registry.set? g with
  | none => exact ⟨rfl, rfl⟩
  | some b =>
    have hserves := AppenderSet.serves_writeCopies .file severity record 1 b s.machine
    obtain ⟨hput, hm⟩ := h.putSet_of_retired hg hb hserves
    refine ⟨Prod.ext hput hm, ?_⟩
    simp [AppenderSet.accepts, (h.retired hg hb).stopped]

/-- The writer of another generation finds no message. -/
theorem workOne_of_ne {g : Nat} (h : Live config s a) (hg : g ≠ s.registry.generation) :
    s.registry.workOne g s.machine = (s.registry, s.machine) := by
  unfold Registry.workOne
  cases hb : s.registry.set? g with
  | none => rfl
  | some b =>
    obtain ⟨hput, hm⟩ := h.putSet_of_retired hg hb (AppenderSet.serves_workOne b s.machine)
    exact Prod.ext hput hm

/-- A record by way of the live generation goes to the live outputs. -/
theorem writeThrough_ok {severity : Severity} {record : Bytes} {r : Registry} {m : Machine} (h : Live config s a)
    (hr : s.registry.writeThrough s.registry.generation .file 1 severity record s.machine = (.ok (), r, m)) :
    ∃ a', a.writeFile severity record s.machine = (.ok (), a', m) ∧ a.Serves s.machine a' m ∧
      r = s.registry.putSet a' := by
  unfold Registry.writeThrough at hr
  simp only [h.set] at hr
  have hserves := AppenderSet.serves_writeCopies .file severity record 1 a s.machine
  rcases hcopies : AppenderSet.writeCopies .file severity record 1 a s.machine with ⟨x, a', m'⟩
  simp only [hcopies] at hr hserves
  obtain ⟨rfl, rfl, rfl⟩ : x = .ok () ∧ s.registry.putSet a' = r ∧ m' = m := by
    simpa [Prod.ext_iff] using hr
  exact ⟨a', AppenderSet.writeCopies_one_ok hcopies, hserves, rfl⟩

/-- **A record.** -/
theorem write {g : Nat} {severity : Severity} {record : Bytes} (h : Live config s a)
    (ht : s.take (.write g severity record) = some s') :
    ∃ a', Live config s' a' ∧ Effect config s a s' (.write g severity record) a' := by
  unfold take at ht
  simp only at ht
  split at ht
  · cases ht
  rename_i r m hthrough
  cases ht
  by_cases hg : g = s.registry.generation
  swap
  · obtain ⟨hpassed, hacc⟩ := h.writeThrough_of_ne hg severity record
    rw [hthrough] at hpassed
    cases hpassed
    exact ⟨a, h.congr rfl, .passed rfl rfl (by simp [hacc])⟩
  subst hg
  obtain ⟨a', hcall, hserves, rfl⟩ := h.writeThrough_ok hthrough
  have hstopped := h.running.notStopped
  cases hq : a.queue with
  | none =>
    rw [AppenderSet.writeFile_direct hstopped hq] at hcall
    simp only [Prod.ext_iff] at hcall
    obtain ⟨hok, rfl, rfl⟩ := hcall
    refine ⟨_, h.serve hserves (by simp [hq]), .written hq (Prod.ext hok rfl) rfl ?_⟩
    simp [Registry.accepts, h.set, AppenderSet.accepts, hstopped, hq]
  | some q =>
    rw [AppenderSet.writeFile_queued hstopped hq] at hcall
    simp only [Prod.ext_iff] at hcall
    obtain ⟨-, rfl, rfl⟩ := hcall
    refine ⟨_, h.serve hserves ?_, .offered hq rfl rfl ?_⟩
    · intro q' hq'
      obtain rfl := Option.some.inj hq'
      exact LogQueue.records_offer (h.records q hq) severity record
    · simp [Registry.accepts, h.set, AppenderSet.accepts, hstopped, hq]

/-- **One message.** -/
theorem work {g : Nat} (h : Live config s a) (ht : s.take (.work g) = some s') :
    ∃ a', Live config s' a' ∧ Effect config s a s' (.work g) a' := by
  unfold take at ht
  simp only at ht
  rcases hone : s.registry.workOne g s.machine with ⟨r, m⟩
  rw [hone] at ht
  simp only at ht
  split at ht
  swap
  · cases ht
  rename_i hquiet
  cases ht
  by_cases hg : g = s.registry.generation
  swap
  · obtain ⟨rfl, rfl⟩ := Prod.ext_iff.1 (hone.symm.trans (h.workOne_of_ne hg))
    exact ⟨a, h.congr rfl, .passed rfl rfl rfl⟩
  subst hg
  unfold Registry.workOne at hone
  simp only [h.set] at hone
  have hserves := AppenderSet.serves_workOne a s.machine
  rcases hwork : a.workOne s.machine with ⟨a', m'⟩
  simp only [hwork] at hone hserves
  cases hone
  rcases AppenderSet.workOne_quiet h.records hwork hquiet with
    ⟨rfl, rfl⟩ | ⟨q, record, rest, f, hq, hch, hwrite, hnow, rfl⟩
  · exact ⟨_, h.serve hserves h.records, .passed rfl rfl rfl⟩
  · refine ⟨_, h.serve hserves ?_, .worked hq hch hwrite hnow rfl⟩
    intro q' hq' x hx
    obtain rfl := Option.some.inj hq'
    refine h.records q hq x ?_
    rw [hch]
    exact List.mem_cons_of_mem _ hx

/-- **A reset.** -/
theorem reset (h : Live config s a) (ht : s.take .reset = some s') :
    ∃ b, Live config s' b ∧ Effect config s a s' .reset b := by
  unfold take at ht
  simp only at ht
  split at ht
  · cases ht
  rename_i r m hreset
  split at ht
  swap
  · cases ht
  rename_i hquiet
  cases ht
  have hone := h.one.reset hreset
  have hands := h.one.reset_handsOver h.live? hreset hquiet
  obtain ⟨-, -, hactive⟩ := Registry.reset_ok hreset
  obtain ⟨b, m₁, hbuild, hset, hconfig, -⟩ := h.one.set?_rebuild (Registry.rebuild_of_reset hreset)
  rw [h.config] at hbuild hconfig
  rw [h.config, hbuild] at hands
  refine ⟨b, ⟨hone, hactive, hconfig, hset, fun q hq x hx => ?_⟩, .renewed hbuild hands rfl⟩
  rw [(AppenderSet.queue_build hbuild hq).2] at hx
  cases hx

/-- **What each act does** to the live outputs and to the disk. -/
theorem take (h : Live config s a) (ht : s.take act = some s') :
    ∃ a', Live config s' a' ∧ Effect config s a s' act a' := by
  cases act with
  | write g severity record => exact h.write ht
  | work g => exact h.work ht
  | reset => exact h.reset ht
  | tick now fileTime =>
    cases ht
    exact ⟨a, h.congr rfl, .ticked rfl rfl⟩

/-- Records are not taken back. -/
theorem accepted_le (h : Live config s a) (ht : s.take act = some s') :
    s.accepted.length ≤ s'.accepted.length := by
  obtain ⟨a', -, heffect⟩ := h.take ht
  cases heffect with
  | passed _ _ haccepted => exact le_of_eq (by rw [haccepted])
  | written _ _ _ haccepted => rw [haccepted, List.length_append]; exact Nat.le_add_right _ _
  | offered _ _ _ haccepted => rw [haccepted, List.length_append]; exact Nat.le_add_right _ _
  | worked _ _ _ _ haccepted => exact le_of_eq (by rw [haccepted])
  | renewed _ _ haccepted => exact le_of_eq (by rw [haccepted])
  | ticked _ haccepted => exact le_of_eq (by rw [haccepted])

/-- **A stop** hands over what the live outputs held back. -/
theorem stop {r : Registry} {m : Machine} (h : Live config s a)
    (hr : s.registry.stop s.machine = (r, m)) (hquiet : m.stderr = s.machine.stderr) :
    a.HandsOver s.machine m := by
  have hands := h.one.stop_handsOver h.live? (m := s.machine)
  rw [hr] at hands
  exact hands hquiet

/-- **A start** opens the first outputs. -/
theorem init {r : Registry} {m m' : Machine} (hr : (Registry.new config).init m = (.ok r, m'))
    (ha : r.live? = some a) :
    Live config { registry := r, machine := m' } a ∧ AppenderSet.build config 1 m = (.ok a, m') := by
  have hnew := Registry.oneLive_new config
  have hone := hnew.init hr
  obtain ⟨-, -, hactive⟩ := Registry.init_ok hr
  obtain ⟨r₁, hrebuild, rfl⟩ := Registry.rebuild_of_init hr
  obtain ⟨b, m₁, hbuild, hset, hconfig, hm⟩ := hnew.set?_rebuild hrebuild
  obtain rfl := hm rfl
  have hlive : Live config { registry := { r₁ with state := .active }, machine := m' } b := by
    refine ⟨hone, hactive, hconfig, hset, fun q hq x hx => ?_⟩
    rw [(AppenderSet.queue_build hbuild hq).2] at hx
    cases hx
  obtain rfl : b = a := Option.some.inj (hlive.live?.symm.trans ha)
  exact ⟨hlive, hbuild⟩

end Live

end Stream

end ModuleHost
