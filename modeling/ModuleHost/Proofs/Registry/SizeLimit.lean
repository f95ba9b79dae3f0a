import Mathlib
import ModuleHost.Proofs.Logging.Bounded
import ModuleHost.Proofs.Registry.Stream

/-!
# The size limit over all generations

Outputs without a queue in front of the log file. Each generation counts the size of the log file for itself, from
what the file holds when it is opened. What the generation before it has in its buffer by then is handed over
later and is never counted.

* `Stream.Limited`: the log file and its archives are within the limit. `Stream.Limited.take`: one act, of which a
  reset has to find the buffer empty.
* `Stream.within_limit`: **after any records and resets**, every file that is larger than the limit is a single
  record, if resets find the buffer empty. They do when every record is flushed.
* `Stream.beyond_limit`: and it is not so if they do not.
-/

namespace ModuleHost

namespace Stream

/-- **Nothing is buffered** in front of the live log file. -/
def Unbuffered (s : Stream) : Prop :=
  ∀ a ∈ s.registry.live?, ∀ w ∈ a.file.writer, w.buffer = []

instance (s : Stream) : Decidable s.Unbuffered :=
  inferInstanceAs (Decidable (∀ a ∈ s.registry.live?, ∀ w ∈ a.file.writer, w.buffer = []))

/-- **Live outputs within the limit**, without a queue. -/
structure Limited (config : Settings.Logging) (σ : LogSite) (s : Stream) (a : AppenderSet) : Prop where
  live : Live config s a
  direct : a.queue = none
  immediate : a.file.immediateFlush = config.file.immediateFlush
  bounded : Bounded σ (AppenderSet.policyOf config.file) s.accepted a.file s.machine.disk

namespace Limited

variable {config : Settings.Logging} {σ : LogSite} {s s' : Stream} {a : AppenderSet} {act : Act}

/-- **One act.** A reset has to find the buffer empty. -/
theorem take (h : Limited config σ s a) (hpath : σ.path = config.file.path)
    (hasync : config.async.enabled = false)
    (hempty : act = .reset → ∀ w, a.file.writer = some w → w.buffer = [])
    (ht : s.take act = some s') : ∃ a', Limited config σ s' a' := by
  obtain ⟨a', hlive, heffect⟩ := h.live.take ht
  refine ⟨a', ?_⟩
  cases heffect with
  | passed hdisk _ haccepted =>
    refine ⟨hlive, h.direct, h.immediate, ?_⟩
    rw [hdisk, haccepted]
    exact h.bounded
  | @written _ _ record _ _ hwrite _ haccepted =>
    have hlog := RollingFile.sameLog_write a.file record s.machine.now s.machine.disk
    rw [hwrite] at hlog
    refine ⟨hlive, h.direct, hlog.immediateFlush.trans h.immediate, ?_⟩
    rw [haccepted]
    exact h.bounded.write hwrite
  | offered hq _ _ _ =>
    rw [h.direct] at hq
    cases hq
  | worked hq _ _ _ _ =>
    rw [h.direct] at hq
    cases hq
  | renewed hbuild hands haccepted =>
    -- the new outputs opened the file when it held everything
    obtain ⟨d, hopen, rfl, hqueue, -, -⟩ := AppenderSet.build_ok hbuild
    rw [hasync] at hqueue
    obtain ⟨_, x, i, -, -, -, hfile⟩ := RollingFile.openAt_ok hopen
    refine ⟨hlive, hqueue, by rw [hfile], ?_⟩
    rw [haccepted]
    rw [← hpath] at hopen
    exact h.bounded.handOver (hempty rfl) hopen (hands.handed h.direct)
  | ticked hmachine haccepted =>
    refine ⟨hlive, h.direct, h.immediate, ?_⟩
    rw [haccepted, hmachine]
    exact h.bounded

/-- **The first outputs** are within the limit if their log file is empty and has no archives. -/
theorem init {m m' : Machine} {r : Registry} (hinit : (Registry.new config).init m = (.ok r, m'))
    (hasync : config.async.enabled = false) (ha : r.live? = some a)
    (hempty : m'.disk.read config.file.path = .ok []) (hnone : a.file.archives m'.disk = .ok []) :
    ∃ σ : LogSite, σ.path = config.file.path ∧ Limited config σ { registry := r, machine := m' } a := by
  obtain ⟨hlive, hbuild⟩ := Live.init hinit ha
  obtain ⟨d, hopen, rfl, hqueue, -, -⟩ := AppenderSet.build_ok hbuild
  rw [hasync] at hqueue
  obtain ⟨_, x, i, -, -, -, hfile⟩ := RollingFile.openAt_ok hopen
  obtain ⟨σ, hpath, hbounded⟩ := Bounded.of_open hopen hnone hempty
  exact ⟨σ, hpath, hlive, hqueue, by rw [hfile], hbounded⟩

end Limited

/-- **Within the limit after any records and resets.** A registry without a queue is started, with an empty log
file that has no archives. Then come records by way of any generation, resets, and whatever the clock does, none
of them with an error, and at last a stop. If every record is flushed, or if at least each reset finds nothing in
the buffer, then the log file and each archive that is listed can be read, and what is larger than the limit is a
single record. -/
theorem within_limit {config : Settings.Logging} {m m₀ m' : Machine} {r₀ r' : Registry} {a₀ : AppenderSet}
    {acts : List Act} {s : Stream}
    (hinit : (Registry.new config).init m = (.ok r₀, m₀)) (hasync : config.async.enabled = false)
    (ha₀ : r₀.live? = some a₀) (hempty : m₀.disk.read config.file.path = .ok [])
    (hnone : a₀.file.archives m₀.disk = .ok [])
    (hflushed : config.file.immediateFlush = true ∨
      Throughout (fun s act => act = .reset → s.Unbuffered) { registry := r₀, machine := m₀ } acts)
    (hrun : run { registry := r₀, machine := m₀ } acts = some s)
    (hstop : s.registry.stop s.machine = (r', m')) (hquiet : m'.stderr = s.machine.stderr) :
    ∃ a paths active, s.registry.live? = some a ∧ a.file.archives m'.disk = .ok paths ∧
      m'.disk.read config.file.path = .ok active ∧
      WithinLimit (AppenderSet.policyOf config.file).maxSize s.accepted active ∧
      ∀ p ∈ paths, ∃ content, m'.disk.read p = .ok content ∧
        WithinLimit (AppenderSet.policyOf config.file).maxSize s.accepted content := by
  obtain ⟨σ, hpath, hfirst⟩ := Limited.init hinit hasync ha₀ hempty hnone
  have hlast : ∃ a, Limited config σ s a := by
    rcases hflushed with himmediate | hunbuffered
    · refine run_induction (P := fun _ _ => True) (Q := fun s => ∃ a, Limited config σ s a) ?_ ⟨a₀, hfirst⟩
        (throughout_of_forall (fun _ _ => trivial) acts _) hrun
      rintro s act s' ⟨a, h⟩ - ht
      exact h.take hpath hasync (fun _ => h.bounded.flushed (h.immediate.trans himmediate)) ht
    · refine run_induction (Q := fun s => ∃ a, Limited config σ s a) ?_ ⟨a₀, hfirst⟩ hunbuffered hrun
      rintro s act s' ⟨a, h⟩ hact ht
      exact h.take hpath hasync (fun hreset => hact hreset a h.live.live?) ht
  obtain ⟨a, h⟩ := hlast
  obtain ⟨paths, active, hpaths, hactive, hlimit, hall⟩ :=
    h.bounded.read ((h.live.stop hstop hquiet).handed h.direct)
  rw [hpath] at hactive
  exact ⟨a, paths, active, h.live.live?, hpaths, hactive, hlimit, hall⟩

/-- Every record flushed, a reset between two records, of which the second is larger than the limit. -/
theorem within_limit_two_generations :
    let t : Instant := ⟨1792231200, 0, 0⟩
    let config : Settings.Logging :=
      { file := { path := "host.log", maxSize := "4", immediateFlush := true }, loggers := [] }
    let acts : List Act := [.write 1 .info [1, 1, 1], .reset, .write 2 .info [2, 2, 2, 2, 2]]
    ∃ r₀ m₀ a₀ s r' m',
      (Registry.new config).init { now := t, fileTime := t } = (.ok r₀, m₀) ∧ config.async.enabled = false ∧
      r₀.live? = some a₀ ∧ m₀.disk.read "host.log" = .ok [] ∧ a₀.file.archives m₀.disk = .ok [] ∧
      config.file.immediateFlush = true ∧ run { registry := r₀, machine := m₀ } acts = some s ∧
      s.registry.stop s.machine = (r', m') ∧ m'.stderr = s.machine.stderr ∧
      ∃ a paths active, s.registry.live? = some a ∧ a.file.archives m'.disk = .ok paths ∧
        m'.disk.read "host.log" = .ok active ∧
        WithinLimit (AppenderSet.policyOf config.file).maxSize s.accepted active ∧
        ∀ p ∈ paths, ∃ content, m'.disk.read p = .ok content ∧
          WithinLimit (AppenderSet.policyOf config.file).maxSize s.accepted content := by
  intro t config acts
  let o := (Registry.new config).init { now := t, fileTime := t }
  have hall : o.1.toOption.any (fun r₀ =>
      r₀.live?.any (fun a₀ => o.2.disk.read "host.log" = .ok [] ∧ a₀.file.archives o.2.disk = .ok []) ∧
        (run { registry := r₀, machine := o.2 } acts).any (fun s =>
          (s.registry.stop s.machine).2.stderr = s.machine.stderr)) = true := by
    decide +kernel
  obtain ⟨r₀, hr₀, hall⟩ := (Option.any_eq_true _ _).1 hall
  obtain ⟨hlive, hall⟩ := of_decide_eq_true hall
  obtain ⟨a₀, ha₀, hfirst⟩ := (Option.any_eq_true _ _).1 hlive
  obtain ⟨hempty, hnone⟩ := of_decide_eq_true hfirst
  obtain ⟨s, hrun, hquiet⟩ := (Option.any_eq_true _ _).1 hall
  have hinit : o = (.ok r₀, o.2) := Prod.ext (Track.ok_of_toOption hr₀) rfl
  have hquiet := of_decide_eq_true hquiet
  exact ⟨r₀, o.2, a₀, s, _, _, hinit, rfl, ha₀, hempty, hnone, rfl, hrun, rfl, hquiet,
    within_limit hinit rfl ha₀ hempty hnone (Or.inl rfl) hrun rfl hquiet⟩

/-- **Beyond the limit.** A reset finds a record in the buffer. The new outputs open an empty file, and what they
add to it is never counted together with that record: in the end the log file holds two records, one more than it
may. -/
theorem beyond_limit :
    let t : Instant := ⟨1792231200, 0, 0⟩
    let config : Settings.Logging := { file := { path := "host.log", maxSize := "4" }, loggers := [] }
    let acts : List Act := [.write 1 .info [1, 1, 1], .reset, .write 2 .info [2, 2, 2]]
    ∃ r₀ m₀ s r' m',
      (Registry.new config).init { now := t, fileTime := t } = (.ok r₀, m₀) ∧ config.async.enabled = false ∧
      run { registry := r₀, machine := m₀ } acts = some s ∧ s.accepted = [[1, 1, 1], [2, 2, 2]] ∧
      s.registry.stop s.machine = (r', m') ∧ m'.stderr = s.machine.stderr ∧
      m'.disk.read "host.log" = .ok [1, 1, 1, 2, 2, 2] ∧
      ¬ WithinLimit (AppenderSet.policyOf config.file).maxSize s.accepted [1, 1, 1, 2, 2, 2] := by
  intro t config acts
  let o := (Registry.new config).init { now := t, fileTime := t }
  have hall : o.1.toOption.any (fun r₀ =>
      (run { registry := r₀, machine := o.2 } acts).any (fun s =>
        s.accepted = [[1, 1, 1], [2, 2, 2]] ∧
        (s.registry.stop s.machine).2.stderr = s.machine.stderr ∧
        (s.registry.stop s.machine).2.disk.read "host.log" = .ok [1, 1, 1, 2, 2, 2] ∧
        ¬ WithinLimit (AppenderSet.policyOf config.file).maxSize s.accepted [1, 1, 1, 2, 2, 2])) = true := by
    decide +kernel
  obtain ⟨r₀, hr₀, hall⟩ := (Option.any_eq_true _ _).1 hall
  obtain ⟨s, hrun, hall⟩ := (Option.any_eq_true _ _).1 hall
  obtain ⟨haccepted, hquiet, hread, hbeyond⟩ := of_decide_eq_true hall
  exact ⟨r₀, o.2, s, _, _, Prod.ext (Track.ok_of_toOption hr₀) rfl, rfl, hrun, haccepted, rfl, hquiet, hread,
    hbeyond⟩

end Stream

end ModuleHost
