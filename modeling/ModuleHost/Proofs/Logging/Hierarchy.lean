import Mathlib
import ModuleHost.Proofs.Logging.Ancestry
import ModuleHost.Proofs.Logging.Lifespan
import ModuleHost.Proofs.Registry.Frame

/-!
# Levels and copies by the hierarchy

The loggers above a target decide about it, the nearest first: the first of them on the level, and all up to the
first that is not additive on the number of copies. As many copies reach the output.

* `LoggerTree.Ancestors`: the loggers above a target, the longest name first.
* `LoggerTree.ancestors_path`: they are what the way to the root meets.
* `LoggerTree.effectiveLevel_eq`, `LoggerTree.routeCount_eq`: level and number of copies, told by them.
* `AppenderSet.Copied`: copies of a record at one of the outputs. `AppenderSet.copied_writeCopies`: no copy is
  missing, and there is none too many.
* `LoggerTree.follows_hierarchy`: **the whole of it.**
-/

namespace ModuleHost

namespace LoggerTree

variable {t : LoggerTree} {target : String} {ps : List (String × LoggerNode)}

/-- **The loggers above a target**, the longest name first. -/
structure Ancestors (t : LoggerTree) (target : String) (ps : List (String × LoggerNode)) : Prop where
  mem_iff : ∀ p n, (p, n) ∈ ps ↔ p ≠ "" ∧ Above p target ∧ t.logger? p = some n
  longestFirst : ps.Pairwise (fun a b => b.1.length < a.1.length)

/-- The loggers on the way to the root, with their names. -/
def path (t : LoggerTree) (target : String) : List (String × LoggerNode) :=
  (lineage target).filterMap (fun p => (t.logger? p).map (fun n => (p, n)))

theorem onPath_eq (t : LoggerTree) (target : String) : t.onPath target = (t.path target).map (·.2) := by
  unfold onPath path
  rw [List.map_filterMap]
  refine List.filterMap_congr fun p _ => ?_
  cases t.logger? p <;> rfl

/-- **The way to the root meets the loggers above a target**, if no three colons stand in a row. -/
theorem ancestors_path (t : LoggerTree) (h : ¬HasTripleColon target) : t.Ancestors target (t.path target) := by
  constructor
  · intro p n
    unfold path
    rw [List.mem_filterMap]
    constructor
    · rintro ⟨q, hq, hn⟩
      obtain ⟨m, hm, heq⟩ := Option.map_eq_some_iff.1 hn
      cases heq
      obtain ⟨hne, habove⟩ := (mem_lineage_iff h).1 hq
      exact ⟨hne, habove, hm⟩
    · rintro ⟨hne, habove, hn⟩
      exact ⟨p, (mem_lineage_iff h).2 ⟨hne, habove⟩, by rw [hn]; rfl⟩
  · refine (pairwise_lineage target).filterMap _ fun p q hlt a ha b hb => ?_
    obtain ⟨-, -, rfl⟩ := Option.map_eq_some_iff.1 ha
    obtain ⟨-, -, rfl⟩ := Option.map_eq_some_iff.1 hb
    exact hlt

/-- **The level** is that of the first, or of the root. -/
theorem effectiveLevel_eq (t : LoggerTree) (target : String) :
    t.effectiveLevel target = ((t.path target).head?.map (·.2.level)).getD t.rootLevel := by
  unfold effectiveLevel
  rw [onPath_eq]
  cases t.path target <;> rfl

/-- **The copies** are counted up to the first that is not additive, or up to the root. -/
theorem countRoutes_eq (ns : List LoggerNode) :
    countRoutes ns = (ns.findIdx? (fun n => !n.additive)).elim (ns.length + 1) (· + 1) := by
  induction ns with
  | nil => rfl
  | cons n ns ih =>
    rw [countRoutes, List.findIdx?_cons]
    cases hn : n.additive with
    | false => rfl
    | true =>
      simp only [if_true, Bool.not_true, Bool.false_eq_true, if_false]
      rw [ih]
      cases ns.findIdx? (fun n => !n.additive) <;> rfl

theorem routeCount_eq (t : LoggerTree) (target : String) :
    t.routeCount target =
      ((t.path target).findIdx? (fun a => !a.2.additive)).elim ((t.path target).length + 1) (· + 1) := by
  unfold routeCount
  rw [onPath_eq, countRoutes_eq, List.findIdx?_map, List.length_map]
  rfl

end LoggerTree

namespace AppenderSet

open RollingFile (Call)

variable {a a' a₁ : AppenderSet} {m m' m₁ : Machine} {s : Severity} {record : Bytes} {sink : Sink} {n : Nat}

/-- **Copies of a record at one of the outputs**: one after another in the stream; as records of the log file,
whatever archives it made before; or offered to the queue in front of it, which takes some and sheds the
others. -/
inductive Copied (s : Severity) (record : Bytes) (n : Nat) (a : AppenderSet) (m : Machine) :
    Sink → AppenderSet → Machine → Prop where
  | stdout {m' : Machine} (h : a.stream = .stdout)
    (hm : m' = { m with stdout := m.stdout ++ (List.replicate n record).flatten }) :
      Copied s record n a m .console a m'
  | stderr {m' : Machine} (h : a.stream = .stderr)
    (hm : m' = { m with stderr := m.stderr ++ (List.replicate n record).flatten }) :
      Copied s record n a m .console a m'
  | file {a' : AppenderSet} {m' : Machine} {f : RollingFile} {d : Disk} (h : a.queue = none)
    (hrun : ∀ made removed, ∃ made' removed',
      Track.run ⟨a.file, m.disk, made, removed⟩ (List.replicate n (.write record m.now)) =
        .ok ⟨f, d, made', removed'⟩)
    (ha : a' = { a with file := f }) (hm : m' = { m with disk := d }) : Copied s record n a m .file a' m'
  | queue {a' : AppenderSet} {m' : Machine} {q q' : LogQueue} (taken shed : Nat) (h : a.queue = some q)
    (hoffers : q' = (fun q => q.offer s record)^[n] q) (hn : taken + shed = n)
    (htaken : q'.channel = q.channel ++ List.replicate taken (.record record))
    (hshed : q'.dropped = q.dropped + shed)
    (ha : a' = { a with queue := some q' }) (hm : m' = { m with meters := m.meters.countDropped shed }) :
    Copied s record n a m .file a' m'

/-- No copies leave everything as it is. -/
theorem copied_zero (sink : Sink) (s : Severity) (record : Bytes) (a : AppenderSet) (m : Machine) :
    Copied s record 0 a m sink a m := by
  cases sink with
  | console =>
    cases hs : a.stream with
    | stdout => exact .stdout hs (by simp)
    | stderr => exact .stderr hs (by simp)
  | file =>
    cases hq : a.queue with
    | none => exact .file hq (fun made removed => ⟨made, removed, rfl⟩) rfl rfl
    | some q =>
      have hsame : a = { a with queue := some q } := by rw [← hq]
      exact .queue 0 0 hq rfl rfl (List.append_nil _).symm rfl hsame rfl

/-- **One copy before the others**, to the console. -/
theorem Copied.cons_console (hopen : a.stopped = false) (hw : a.writeConsole record m = (.ok (), a₁, m₁))
    (h : Copied s record n a₁ m₁ .console a' m') : Copied s record (n + 1) a m .console a' m' := by
  unfold writeConsole at hw
  rw [if_neg (by simp [hopen])] at hw
  have hmore : ∀ out : Bytes, (out ++ record) ++ (List.replicate n record).flatten =
      out ++ (List.replicate (n + 1) record).flatten := by
    intro out
    rw [List.replicate_succ, List.flatten_cons, List.append_assoc]
  cases hs : a.stream with
  | stdout =>
    rw [hs] at hw
    cases hw
    cases h with
    | stdout _ hm => exact .stdout hs (by rw [hm, hmore])
    | stderr h _ => cases hs.symm.trans h
  | stderr =>
    rw [hs] at hw
    cases hw
    cases h with
    | stdout h _ => cases hs.symm.trans h
    | stderr _ hm => exact .stderr hs (by rw [hm, hmore])

/-- **One copy before the others**, to the file. -/
theorem Copied.cons_direct (hopen : a.stopped = false) (hq : a.queue = none)
    (hw : a.writeFile s record m = (.ok (), a₁, m₁)) (h : Copied s record n a₁ m₁ .file a' m') :
    Copied s record (n + 1) a m .file a' m' := by
  rw [writeFile_direct hopen hq] at hw
  rcases hwrite : a.file.write record m.now m.disk with ⟨res, f₁, d₁⟩
  rw [hwrite] at hw
  cases hw
  cases h with
  | queue _ _ h => cases hq.symm.trans h
  | file h hrun ha hm =>
    refine .file hq (fun made removed => ?_) ha hm
    -- the first of the copies may make and remove archives
    obtain ⟨made₁, removed₁, htake⟩ : ∃ made₁ removed₁,
        Track.take ⟨a.file, m.disk, made, removed⟩ (.write record m.now) = .ok ⟨f₁, d₁, made₁, removed₁⟩ := by
      unfold Track.take
      simp only [hwrite]
      split
      · exact ⟨_, _, rfl⟩
      · exact ⟨_, _, rfl⟩
    obtain ⟨made', removed', hrest⟩ := hrun made₁ removed₁
    exact ⟨made', removed', Track.run_cons_ok_iff.2 ⟨_, htake, hrest⟩⟩

/-- **One copy before the others**, to the queue. -/
theorem Copied.cons_queued {q : LogQueue} (hopen : a.stopped = false) (hq : a.queue = some q)
    (hw : a.writeFile s record m = (.ok (), a₁, m₁)) (h : Copied s record n a₁ m₁ .file a' m') :
    Copied s record (n + 1) a m .file a' m' := by
  rw [writeFile_queued hopen hq] at hw
  cases hw
  cases h with
  | file h => cases h
  | queue taken shed h hoffers hn htaken hshed ha hm =>
    obtain rfl := Option.some.inj h
    have hcount : ∀ k, m' = { m with meters := m.meters.countDropped (k + shed) } ↔
        m' = { m with meters := (m.meters.countDropped k).countDropped shed } := by
      intro k
      unfold Meters.countDropped
      rw [← Nat.add_assoc]
    rcases q.offer_cases s record with hfirst | hfirst
    · have hdropped : (q.offer s record).dropped = q.dropped + 1 := by rw [hfirst]; rfl
      have hchannel : (q.offer s record).channel = q.channel := by rw [hfirst]; rfl
      rw [hdropped, Nat.add_sub_cancel_left] at hm
      refine .queue taken (1 + shed) hq hoffers (by omega) (by rw [htaken, hchannel]) ?_ ha
        ((hcount 1).2 hm)
      rw [hshed, hdropped, Nat.add_assoc]
    · have hdropped : (q.offer s record).dropped = q.dropped := by rw [hfirst]; rfl
      have hchannel : (q.offer s record).channel = q.channel ++ [.record record] := by rw [hfirst]
      rw [hdropped, Nat.sub_self] at hm
      refine .queue (taken + 1) shed hq hoffers (by omega) ?_ (by rw [hshed, hdropped]) ha ?_
      · rw [htaken, hchannel, List.append_assoc]
        rfl
      · rw [← Nat.zero_add shed]
        exact (hcount 0).2 hm

/-- **As many copies as asked for**, if none is refused. -/
theorem copied_writeCopies (n : Nat) :
    ∀ {a : AppenderSet} {m : Machine}, a.stopped = false →
      writeCopies sink s record n a m = (.ok (), a', m') → Copied s record n a m sink a' m' := by
  induction n with
  | zero =>
    intro a m _ h
    cases h
    exact copied_zero sink s record _ _
  | succ n ih =>
    intro a m hopen h
    unfold writeCopies at h
    split at h
    · cases h
    · rename_i a₁ m₁ hw
      have hopen₁ : a₁.stopped = false := by
        have hkept := (stopped_writeTo sink s record a m).2
        rw [hw] at hkept
        exact hkept.trans hopen
      have hrest := ih hopen₁ h
      cases sink with
      | console => exact hrest.cons_console hopen hw
      | file =>
        cases hq : a.queue with
        | none => exact hrest.cons_direct hopen hq hw
        | some q => exact hrest.cons_queued hopen hq hw

end AppenderSet

namespace Registry

open AppenderSet (Copied)

variable {r r' : Registry} {g : Nat} {a : AppenderSet} {sink : Sink} {s : Severity} {record : Bytes}
  {m m' : Machine}

/-- **The copies are found in the generation** that they went by way of, if none is refused. -/
theorem copied_writeThrough {copies : Nat} (ha : r.set? g = some a) (hopen : a.stopped = false)
    (hw : r.writeThrough g sink copies s record m = (.ok (), r', m')) :
    ∃ a', r'.set? g = some a' ∧ Copied s record copies a m sink a' m' := by
  unfold writeThrough at hw
  rw [ha] at hw
  simp only at hw
  rcases hcopies : AppenderSet.writeCopies sink s record copies a m with ⟨res, a', m₁⟩
  rw [hcopies] at hw
  cases hw
  refine ⟨a', ?_, AppenderSet.copied_writeCopies _ hopen hcopies⟩
  -- the generation is the one that it was
  have hgeneration := AppenderSet.fixed_generation.writeCopies sink s record copies a m
  rw [hcopies] at hgeneration
  have hsame : a'.generation = g := hgeneration.trans (generation_of_set? ha)
  rw [set?_putSet, if_pos hsame, ha]
  rfl

end Registry

namespace LoggerTree

open AppenderSet (Copied)

/-- **Level and copies follow the hierarchy.** For every target without three colons in a row there is a list of
exactly the loggers above it, the longest name first. Its first has the level, or the root has it if there is
none. The number of copies is the place of the first that is not additive, counted from one, or one more than
there are if all are. For every target, cutting at the last separator comes to an end. And take any registry whose
live tree this is, attached to outputs that are not stopped. A record that goes through the writer for the target,
and of which no copy is refused, is at the output as often as the tree says. That is how a record of an event gets
there which the tree lets pass. -/
theorem follows_hierarchy (t : LoggerTree) (target : String) :
    (¬HasTripleColon target → ∃ ps, t.Ancestors target ps ∧
      t.effectiveLevel target = (ps.head?.map (·.2.level)).getD t.rootLevel ∧
      t.routeCount target = (ps.findIdx? (fun a => !a.2.additive)).elim (ps.length + 1) (· + 1)) ∧
    (∃ n ≤ target.toList.length + 1, (fun x => x.bind cutLast?)^[n] (some target.toList) = none) ∧
    ∀ (r r' : Registry) (g : Nat) (a : AppenderSet) (sink : Sink) (s : Severity) (record : Bytes) (m m' : Machine),
      r.tree = t → t.attached = some g → r.set? g = some a → a.stopped = false →
      r.writeFor sink target s record m = (.ok (), r', m') →
      (∃ a', r'.set? g = some a' ∧ Copied s record (t.routeCount target) a m sink a' m') ∧
        (t.enabled target s = true → r.publish sink target s record m = r'.work g m') := by
  refine ⟨fun h => ⟨t.path target, t.ancestors_path h, t.effectiveLevel_eq target, t.routeCount_eq target⟩,
    walk_ends target.toList, ?_⟩
  rintro r r' g a sink s record m m' rfl hattached ha hopen hw
  refine ⟨?_, fun henabled => ?_⟩
  · rw [Registry.writeFor_of_attached hattached] at hw
    exact Registry.copied_writeThrough ha hopen hw
  · unfold Registry.publish
    simp only [hattached, henabled, if_true, hw]
    rfl

/-- A target below two loggers, the nearer of which is additive: both write, and the root does not. -/
theorem follows_hierarchy_two_copies :
    let config : Settings.Logging :=
      { file := { path := "host.log" }, loggers := [⟨"app", "warn", false⟩, ⟨"app::db", "debug", true⟩] }
    let target := "app::db.pool"
    let o := (Registry.new config).init { now := ⟨1792231200, 0, 0⟩, fileTime := ⟨1792231200, 0, 0⟩ }
    ∃ r a ps r' a' m', o.1 = .ok r ∧ r.tree.attached = some 1 ∧ r.set? 1 = some a ∧ a.stopped = false ∧
      ¬HasTripleColon target ∧ r.tree.Ancestors target ps ∧ r.tree.effectiveLevel target = .upTo .debug ∧
      r.tree.routeCount target = 2 ∧ r.writeFor .file target .debug [104] o.2 = (.ok (), r', m') ∧
      r'.set? 1 = some a' ∧ Copied .debug [104] 2 a o.2 .file a' m' ∧
      r.publish .file target .debug [104] o.2 = r'.work 1 m' := by
  intro config target o
  have hall : o.1.toOption.any (fun r =>
      decide (r.tree.attached = some 1 ∧ r.tree.effectiveLevel target = .upTo .debug ∧
          r.tree.routeCount target = 2 ∧
          r.tree.enabled target .debug = true ∧ (r.writeFor .file target .debug [104] o.2).1 = .ok ()) &&
        (r.set? 1).any (fun a => a.stopped = false)) = true := by
    decide +kernel
  obtain ⟨r, hr, hall⟩ := (Option.any_eq_true _ _).1 hall
  obtain ⟨hfirst, hall⟩ := Bool.and_eq_true_iff.1 hall
  obtain ⟨hattached, hlevel, hcount, henabled, hok⟩ := of_decide_eq_true hfirst
  obtain ⟨a, ha, hall⟩ := (Option.any_eq_true _ _).1 hall
  have hopen := of_decide_eq_true hall
  have hcolons : ¬HasTripleColon target := by decide
  have hwrite : r.writeFor .file target .debug [104] o.2 =
      (.ok (), (r.writeFor .file target .debug [104] o.2).2) :=
    Prod.ext hok rfl
  obtain ⟨hpath, -, hcopies⟩ := follows_hierarchy r.tree target
  obtain ⟨ps, hancestors, -, -⟩ := hpath hcolons
  rw [hcount] at hcopies
  obtain ⟨⟨a', ha', hcopied⟩, hpublish⟩ := hcopies r _ 1 a .file .debug [104] o.2 _ rfl hattached ha hopen hwrite
  exact ⟨r, a, ps, _, a', _, Track.ok_of_toOption hr, hattached, ha, hopen, hcolons, hancestors, hlevel,
    hcount, hwrite, ha', hcopied, hpublish henabled⟩

end LoggerTree

end ModuleHost
