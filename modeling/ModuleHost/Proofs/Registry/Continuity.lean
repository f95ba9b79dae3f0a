import Mathlib
import ModuleHost.Proofs.Logging.Unbroken
import ModuleHost.Proofs.Registry.Stream

/-!
# Resets in the stream of records

A reset opens the log file for the next outputs first. Then the outputs before them write what is in their queue,
and hand over their buffer. As long as these records go to the active file, both have the same file open, and
nobody who reads the log will see that there was a reset. If one of them rolls over, the file that the next
outputs have open becomes an archive, and what they write goes there.

* `Stream.Orderly`: the clock does not go back, and what waits in the queue at a reset goes to the active file.
* `Stream.Flowing`: what is on the disk and what is in the queue are all records. `Stream.Flowing.take`: one act.
* `Stream.reset_invisible`: **after an orderly run**, the archives and the active file hold all records that were
  accepted, in order, but for the oldest archives.
* `Stream.reset_visible`: and it is not so if a record that waits rolls over.
-/

namespace ModuleHost

namespace Stream

/-- **An act in order.** The clock does not go back; the local time zone is UTC, and years have four digits. At a
reset, the file shows a time of its last change in its period or later, and not in the future, and the records in
the queue go to the active file one and all. -/
def Orderly (s : Stream) : Act → Prop
  | .tick now _ => s.machine.now ≤ now ∧ now.FourDigitYear
  | .reset => ∀ a ∈ s.registry.live?,
      (a.file.period ≤ a.file.policy.rotation.period s.machine.fileTime ∧
        s.machine.fileTime ≤ s.machine.now ∧ s.machine.fileTime.FourDigitYear) ∧
      a.file.takesInPlace s.machine.now a.queued s.machine.disk = true
  | _ => True

instance decidableOrderly (s : Stream) : ∀ act, Decidable (Orderly s act)
  | .tick now _ => inferInstanceAs (Decidable (s.machine.now ≤ now ∧ now.FourDigitYear))
  | .reset => inferInstanceAs (Decidable (∀ a ∈ s.registry.live?,
      (a.file.period ≤ a.file.policy.rotation.period s.machine.fileTime ∧
        s.machine.fileTime ≤ s.machine.now ∧ s.machine.fileTime.FourDigitYear) ∧
      a.file.takesInPlace s.machine.now a.queued s.machine.disk = true))
  | .write _ _ _ => isTrue trivial
  | .work _ => isTrue trivial

/-- **Live outputs in an unbroken stream**: what was written and what waits in the queue are all records that were
accepted, after what the log file held at first. -/
structure Flowing (config : Settings.Logging) (σ : LogSite) (initial : Bytes) (s : Stream) (a : AppenderSet) :
    Prop where
  live : Live config s a
  whole : ∃ written,
    Unbroken σ (AppenderSet.policyOf config.file) written a.file s.machine.disk s.machine.now ∧
      written ++ a.queued = initial :: s.accepted

namespace Flowing

variable {config : Settings.Logging} {σ : LogSite} {initial : Bytes} {s s' : Stream} {a : AppenderSet} {act : Act}

/-- **A reset** of which nobody will see anything: what waited and what was buffered comes last in the file that
the next outputs have open by then. -/
theorem renew {written : List Bytes} {b : AppenderSet} {m m' : Machine}
    (h : Unbroken σ (AppenderSet.policyOf config.file) written a.file m.disk m.now)
    (hpath : σ.path = config.file.path) (hcount : (written ++ a.queued).length ≤ UInt64.size)
    (hfile : (a.file.period ≤ (AppenderSet.policyOf config.file).rotation.period m.fileTime ∧
      m.fileTime ≤ m.now ∧ m.fileTime.FourDigitYear) ∧
      a.file.takesInPlace m.now a.queued m.disk = true)
    {g : Nat} {m₁ : Machine} (hbuild : AppenderSet.build config g m = (.ok b, m₁)) (hands : a.HandsOver m₁ m') :
    Unbroken σ (AppenderSet.policyOf config.file) (written ++ a.queued) b.file m'.disk m.now := by
  obtain ⟨⟨hperiod, hpast, hyear⟩, hplace⟩ := hfile
  obtain ⟨as, content, hsteady⟩ := h.steady
  obtain ⟨w, text, hw, hact, -, -⟩ := hsteady.holding.writer
  -- the next outputs find the file there
  obtain ⟨d, hopen, rfl, -, -, -⟩ := AppenderSet.build_ok hbuild
  obtain ⟨names, hlist, -⟩ := hsteady.holding.shelf.list_eq
  rw [← hpath] at hopen
  obtain ⟨rfl, hsite, hclosed, hwb, -, hpolicy, -, hperiodb⟩ :=
    hact.openAt hsteady.holding.shelf.below hlist hopen
  obtain ⟨t, hrun, hhanded, -⟩ := hands
  have h' := h.run (s := { file := a.file, disk := m.disk }) hcount hrun
  obtain ⟨hsame, w', hw', hfilew⟩ :=
    Unbroken.run_inPlace (s := { file := a.file, disk := m.disk }) hsteady.holding.notClosed hw hplace hrun
  rw [← hfilew] at hwb
  have hmono := (AppenderSet.policyOf config.file).rotation.period_mono hpast hyear h.year
  refine h'.handOver hw' hhanded hsite hclosed hwb hpolicy ⟨_, hperiodb⟩ ?_ ?_
  · rw [hsame, hperiodb]
    split
    · exact hperiod
    · exact hsteady.notAhead
  · rw [hperiodb]
    split
    · exact hmono
    · exact le_refl _

/-- **One act**, in order. -/
theorem take (h : Flowing config σ initial s a) (hpath : σ.path = config.file.path) (hact : Orderly s act)
    (ht : s.take act = some s') (hcount : s'.accepted.length < UInt64.size) :
    ∃ a', Flowing config σ initial s' a' := by
  obtain ⟨a', hlive, heffect⟩ := h.live.take ht
  obtain ⟨written, hwhole, hall⟩ := h.whole
  have hlength := congrArg List.length hall
  rw [List.length_append, List.length_cons] at hlength
  have hle := h.live.accepted_le ht
  refine ⟨a', hlive, ?_⟩
  cases heffect with
  | passed hdisk hnow haccepted =>
    rw [hdisk, hnow, haccepted]
    exact ⟨written, hwhole, hall⟩
  | @written _ _ record _ hq hwrite hnow haccepted =>
    have hnil := AppenderSet.queued_of_none hq
    rw [hnil, List.append_nil] at hall
    rw [haccepted, List.length_append, List.length_singleton] at hcount
    rw [hnow, haccepted]
    refine ⟨written ++ [record], hwhole.write (by omega) hwrite, ?_⟩
    show (written ++ [record]) ++ a.queued = _
    rw [hnil, List.append_nil, hall]
    rfl
  | @offered _ severity record q hq hdisk hnow haccepted =>
    rw [hdisk, hnow, haccepted]
    refine ⟨written, hwhole, ?_⟩
    rw [AppenderSet.queued_of_some hq] at hall
    show written ++ LogQueue.queuedRecords (q.offer severity record).channel = _
    rcases q.offer_cases severity record with hoffer | hoffer
    · have hshed : q.shed.dropped ≠ q.dropped := Nat.succ_ne_self _
      rw [hoffer, if_neg hshed, List.append_nil]
      exact hall
    · have hdropped : (q.offer severity record).dropped = q.dropped := by
        rw [hoffer]
        rfl
      rw [if_pos hdropped, hoffer, LogQueue.queuedRecords_append record (h.live.records q hq),
        ← List.append_assoc, hall]
      rfl
  | @worked _ record rest q _ hq hchannel hwrite hnow haccepted =>
    have hqueued : a.queued = record :: LogQueue.queuedRecords rest := by
      rw [AppenderSet.queued_of_some hq, hchannel]
      rfl
    rw [hqueued] at hall hlength
    rw [List.length_cons] at hlength
    rw [hnow, haccepted]
    refine ⟨written ++ [record], hwhole.write (by omega) hwrite, ?_⟩
    show (written ++ [record]) ++ LogQueue.queuedRecords rest = _
    rw [← hall]
    simp
  | renewed hbuild hands haccepted =>
    have hfile := hact a h.live.live?
    obtain ⟨as, content, hsteady⟩ := hwhole.steady
    rw [hsteady.samePolicy] at hfile
    have hwhole' := renew hwhole hpath (by rw [List.length_append]; omega) hfile hbuild hands
    have hnow : s'.machine.now = s.machine.now := by
      obtain ⟨d, -, rfl, -, -, -⟩ := AppenderSet.build_ok hbuild
      obtain ⟨-, -, -, hmachine⟩ := hands
      rw [hmachine]
    have hnil := AppenderSet.queued_build hbuild
    rw [hnow, haccepted, hnil]
    exact ⟨written ++ a.queued, hwhole', by rw [List.append_nil]; exact hall⟩
  | ticked hmachine haccepted =>
    obtain ⟨hclock, hyear⟩ := hact
    rw [haccepted, hmachine]
    exact ⟨written, hwhole.later hclock hyear, hall⟩

/-- **The first outputs** begin the stream with what the log file holds. -/
theorem init {m m' : Machine} {r : Registry} (hinit : (Registry.new config).init m = (.ok r, m'))
    (ha : r.live? = some a) (hnone : a.file.archives m'.disk = .ok [])
    (hinitial : m'.disk.read config.file.path = .ok initial) (hyear : m.now.FourDigitYear)
    (hmodified : initial ≠ [] → m.fileTime ≤ m.now ∧ m.fileTime.FourDigitYear) :
    ∃ σ : LogSite, σ.path = config.file.path ∧
      Flowing config σ initial { registry := r, machine := m' } a := by
  obtain ⟨hlive, hbuild⟩ := Live.init hinit ha
  obtain ⟨d, hopen, rfl, -, -, -⟩ := AppenderSet.build_ok hbuild
  obtain ⟨σ, hpath, -, hwhole⟩ := Unbroken.of_open hopen hnone hinitial hyear hmodified
  refine ⟨σ, hpath, hlive, [initial], hwhole, ?_⟩
  rw [AppenderSet.queued_build hbuild]
  rfl

end Flowing

/-- **A reset is invisible.** A registry is started, with or without a queue, in a directory that has no archives
of its log file, and `initial` is what the log file holds then. Now come records by way of any generation, resets,
a writer that takes its messages whenever it pleases, and the clock, in order and without an error, and at last a
stop. Then the archives, as they are listed, and the active file can be read. Together with the archives that were
removed they hold `initial` and the records that were accepted, each once and whole and in the order in which they
were accepted, and archives were removed only if there are as many left as may be. -/
theorem reset_invisible {config : Settings.Logging} {m m₀ m' : Machine} {r₀ r' : Registry} {a₀ : AppenderSet}
    {initial : Bytes} {acts : List Act} {s : Stream}
    (hinit : (Registry.new config).init m = (.ok r₀, m₀)) (ha₀ : r₀.live? = some a₀)
    (hnone : a₀.file.archives m₀.disk = .ok []) (hinitial : m₀.disk.read config.file.path = .ok initial)
    (hyear : m.now.FourDigitYear)
    (hmodified : initial ≠ [] → m.fileTime ≤ m.now ∧ m.fileTime.FourDigitYear)
    (horder : Throughout Orderly { registry := r₀, machine := m₀ } acts)
    (hrun : run { registry := r₀, machine := m₀ } acts = some s) (hcount : s.accepted.length < UInt64.size)
    (hstop : s.registry.stop s.machine = (r', m')) (hquiet : m'.stderr = s.machine.stderr) :
    ∃ a paths removed contents active, s.registry.live? = some a ∧ a.file.archives m'.disk = .ok paths ∧
      paths.map m'.disk.read = contents.map .ok ∧ m'.disk.read config.file.path = .ok active ∧
      Tiled (initial :: s.accepted) (removed ++ contents) active ∧
      (removed = [] ∨ contents.length = config.file.maxHistory) := by
  obtain ⟨σ, hpath, hfirst⟩ := Flowing.init hinit ha₀ hnone hinitial hyear hmodified
  -- the number of records is bounded in the end, and so it is before
  have hlast : s.accepted.length < UInt64.size → ∃ a, Flowing config σ initial s a := by
    refine run_induction (P := Orderly)
      (Q := fun s => ∃ a, Live config s a ∧ (s.accepted.length < UInt64.size → Flowing config σ initial s a))
      ?_ ⟨a₀, hfirst.live, fun _ => hfirst⟩ horder hrun |>.elim (fun a h hlt => ⟨a, h.2 hlt⟩)
    rintro s act s' ⟨a, hlive, h⟩ hact ht
    obtain ⟨a', hlive', -⟩ := hlive.take ht
    refine ⟨a', hlive', fun hlt => ?_⟩
    obtain ⟨a'', h'⟩ := (h ((hlive.accepted_le ht).trans_lt hlt)).take hpath hact ht hlt
    obtain rfl : a'' = a' := Option.some.inj (h'.live.live?.symm.trans hlive'.live?)
    exact h'
  obtain ⟨a, h⟩ := hlast hcount
  obtain ⟨written, hwhole, hall⟩ := h.whole
  have hlength := congrArg List.length hall
  rw [List.length_cons] at hlength
  -- the stop writes what waits, with rolls or without
  obtain ⟨t, hdrained, hhanded, -⟩ := h.live.stop hstop hquiet
  have hwhole' := hwhole.run (s := { file := a.file, disk := s.machine.disk }) (by omega) hdrained
  obtain ⟨paths, removed, contents, active, hpaths, hread, hactive, htiled, hfull⟩ := hwhole'.read hhanded
  obtain ⟨as, content, hsteady⟩ := hwhole.steady
  rw [hall] at htiled
  rw [hpath] at hactive
  exact ⟨a, paths, removed, contents, active, h.live.live?, hpaths a.file hsteady.holding.site, hread, hactive,
    htiled, hfull⟩

/-- Two records before a reset, of which one waits in the queue, and two after it, of which the last rolls
over. -/
theorem reset_invisible_queued :
    let t : Instant := ⟨1792231200, 0, 0⟩
    let config : Settings.Logging :=
      { file := { path := "host.log", maxSize := "6" }
        async := { enabled := true, queueSize := 8, discardThreshold := 0 }
        loggers := [] }
    let acts : List Act := [.write 1 .info [1, 1, 1], .work 1, .write 1 .info [2], .reset,
      .write 2 .info [3, 3, 3], .tick ⟨1792231260, 0, 0⟩ t, .work 2, .write 2 .info [4, 4, 4, 4]]
    ∃ r₀ m₀ a₀ s r' m',
      (Registry.new config).init { now := t, fileTime := t } = (.ok r₀, m₀) ∧ r₀.live? = some a₀ ∧
      a₀.file.archives m₀.disk = .ok [] ∧ m₀.disk.read "host.log" = .ok [] ∧
      Throughout Orderly { registry := r₀, machine := m₀ } acts ∧
      run { registry := r₀, machine := m₀ } acts = some s ∧ s.accepted.length = 4 ∧
      s.registry.stop s.machine = (r', m') ∧ m'.stderr = s.machine.stderr ∧
      ∃ a paths removed contents active, s.registry.live? = some a ∧ a.file.archives m'.disk = .ok paths ∧
        paths.map m'.disk.read = contents.map .ok ∧ m'.disk.read "host.log" = .ok active ∧
        Tiled ([] :: s.accepted) (removed ++ contents) active ∧
        (removed = [] ∨ contents.length = config.file.maxHistory) := by
  intro t config acts
  let o := (Registry.new config).init { now := t, fileTime := t }
  have hall : o.1.toOption.any (fun r₀ =>
      r₀.live?.any (fun a₀ => a₀.file.archives o.2.disk = .ok [] ∧ o.2.disk.read "host.log" = .ok []) ∧
        Throughout Orderly { registry := r₀, machine := o.2 } acts ∧
        (run { registry := r₀, machine := o.2 } acts).any (fun s =>
          s.accepted.length = 4 ∧ (s.registry.stop s.machine).2.stderr = s.machine.stderr)) = true := by
    decide +kernel
  obtain ⟨r₀, hr₀, hall⟩ := (Option.any_eq_true _ _).1 hall
  obtain ⟨hlive, horder, hall⟩ := of_decide_eq_true hall
  obtain ⟨a₀, ha₀, hfirst⟩ := (Option.any_eq_true _ _).1 hlive
  obtain ⟨hnone, hinitial⟩ := of_decide_eq_true hfirst
  obtain ⟨s, hrun, hlast⟩ := (Option.any_eq_true _ _).1 hall
  obtain ⟨hfour, hquiet⟩ := of_decide_eq_true hlast
  have hinit : o = (.ok r₀, o.2) := Prod.ext (Track.ok_of_toOption hr₀) rfl
  have hcount : s.accepted.length < UInt64.size := by
    rw [hfour]
    decide
  have hyear : t.FourDigitYear := by decide
  exact ⟨r₀, o.2, a₀, s, _, _, hinit, ha₀, hnone, hinitial, horder, hrun, hfour, rfl, hquiet,
    reset_invisible hinit ha₀ hnone hinitial hyear (fun h => (h rfl).elim) horder hrun hcount rfl hquiet⟩

/-- **A reset is seen.** A record that waits in the queue rolls over while the outputs are reset. It ends up alone
in the active file, while the next outputs, which have the file open that became an archive, write the record
after it there. -/
theorem reset_visible :
    let t : Instant := ⟨1792231200, 0, 0⟩
    let config : Settings.Logging :=
      { file := { path := "host.log", maxSize := "4", immediateFlush := true }
        async := { enabled := true, queueSize := 8, discardThreshold := 0 }
        loggers := [] }
    let acts : List Act :=
      [.write 1 .info [1, 1, 1], .work 1, .write 1 .info [2, 2, 2], .reset, .write 2 .info [3], .work 2]
    ∃ r₀ m₀ a₀ s r' m' a paths,
      (Registry.new config).init { now := t, fileTime := t } = (.ok r₀, m₀) ∧ r₀.live? = some a₀ ∧
      a₀.file.archives m₀.disk = .ok [] ∧ m₀.disk.read "host.log" = .ok [] ∧
      run { registry := r₀, machine := m₀ } acts = some s ∧
      s.accepted = [[1, 1, 1], [2, 2, 2], [3]] ∧
      s.registry.stop s.machine = (r', m') ∧ m'.stderr = s.machine.stderr ∧
      s.registry.live? = some a ∧ a.file.archives m'.disk = .ok paths ∧
      paths.map m'.disk.read = [.ok [1, 1, 1, 3]] ∧ m'.disk.read "host.log" = .ok [2, 2, 2] ∧
      ¬ ∃ removed, Tiled ([] :: s.accepted) (removed ++ [[1, 1, 1, 3]]) [2, 2, 2] := by
  intro t config acts
  let o := (Registry.new config).init { now := t, fileTime := t }
  have hall : o.1.toOption.any (fun r₀ =>
      r₀.live?.any (fun a₀ => a₀.file.archives o.2.disk = .ok [] ∧ o.2.disk.read "host.log" = .ok []) ∧
        (run { registry := r₀, machine := o.2 } acts).any (fun s =>
          let m' := (s.registry.stop s.machine).2
          s.accepted = [[1, 1, 1], [2, 2, 2], [3]] ∧ m'.stderr = s.machine.stderr ∧
            m'.disk.read "host.log" = .ok [2, 2, 2] ∧
            s.registry.live?.any (fun a => (a.file.archives m'.disk).toOption.any (fun paths =>
              paths.map m'.disk.read = [.ok [1, 1, 1, 3]])))) = true := by
    decide +kernel
  obtain ⟨r₀, hr₀, hall⟩ := (Option.any_eq_true _ _).1 hall
  obtain ⟨hlive, hall⟩ := of_decide_eq_true hall
  obtain ⟨a₀, ha₀, hfirst⟩ := (Option.any_eq_true _ _).1 hlive
  obtain ⟨hnone, hinitial⟩ := of_decide_eq_true hfirst
  obtain ⟨s, hrun, hlast⟩ := (Option.any_eq_true _ _).1 hall
  obtain ⟨haccepted, hquiet, hactive, hlast⟩ := of_decide_eq_true hlast
  obtain ⟨a, ha, hlast⟩ := (Option.any_eq_true _ _).1 hlast
  obtain ⟨paths, hpaths, hread⟩ := (Option.any_eq_true _ _).1 hlast
  refine ⟨r₀, o.2, a₀, s, _, _, a, paths, Prod.ext (Track.ok_of_toOption hr₀) rfl, ha₀, hnone, hinitial, hrun,
    haccepted, rfl, hquiet, ha, Track.ok_of_toOption hpaths, of_decide_eq_true hread, hactive, ?_⟩
  -- the bytes that are there leave nothing for what was removed, and are not in order
  rintro ⟨removed, htiled⟩
  have hbytes := htiled.flatten
  rw [haccepted, List.flatten_append] at hbytes
  have hnil : removed.flatten = [] := by
    have hlength := congrArg List.length hbytes
    simp only [List.length_append, List.flatten_cons, List.flatten_nil, List.length_cons,
      List.length_nil] at hlength
    exact List.length_eq_zero_iff.1 (by omega)
  rw [hnil] at hbytes
  exact absurd hbytes (by decide)

end Stream

end ModuleHost
