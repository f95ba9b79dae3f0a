import Mathlib
import ModuleHost.Proofs.Logging.Identity
import ModuleHost.Proofs.Logging.Lifespan
import ModuleHost.Proofs.Logging.Stand

/-!
# Log files within their limit

A log file that knows its size goes to the archives before it grows beyond the limit. So what is larger is a
single record. The clock may say what it pleases; nothing depends on the order of the archives, and an archive may
even take the place of another.

* `Stored`: all archives in the directory are as they may be. `Stored.setAside`, `Stored.create`, `Stored.prune`:
  the parts of a roll.
* `Counted`: an open log file that knows its size. `Counted.append`, `Counted.roll`, `Counted.handOver`.
* `Bounded`: what is larger than the limit is a single record. `Bounded.write`: **a record keeps that.**
-/

namespace ModuleHost

open Disk (Below Appended)
open ModuleHost.Path (IsName)

/-! ### The archives -/

/-- **Archives that are as they may be**: all entries of the directory with an archive's name lead to such
ones. -/
structure Stored (may : Kept → Prop) (σ : LogSite) (d : Disk) : Prop where
  below : Below σ.base d
  entries : ∃ above es, d.node? σ.dir = some (.dir above es) ∧
    ∀ e ∈ es, (σ.log.key? e.1).isSome →
      ∃ a : Kept, e = (σ.log.archive a.key, a.entry) ∧ a.On σ d ∧ may a

namespace Stored

variable {may may' : Kept → Prop} {σ : LogSite} {d d' : Disk} {i : NodeId} {content : Bytes}
  {key : ArchiveKey} {f : RollingFile}

theorem imp (h : Stored may σ d) (hmay : ∀ a, a.On σ d → may a → may' a) : Stored may' σ d := by
  obtain ⟨above, es, hD, hes⟩ := h.entries
  refine ⟨h.below, above, es, hD, fun e he hsome => ?_⟩
  obtain ⟨a, ha, hon, hmaya⟩ := hes e he hsome
  exact ⟨a, ha, hon, hmay a hon hmaya⟩

/-- Without archives there is nothing to be said. -/
theorem of_shelf_nil (h : Shelf σ d []) : Stored may σ d := by
  obtain ⟨above, es, hD, hes⟩ := h.entries
  refine ⟨h.below, above, es, hD, fun e he hsome => ?_⟩
  have hmem : e ∈ es.filter (fun e => (σ.log.key? e.1).isSome) := List.mem_filter.2 ⟨he, hsome⟩
  rw [hes] at hmem
  cases hmem

/-- **The archives that are listed can be read**, and are as they may be. -/
theorem list_eq (h : Stored may σ d) :
    ∃ names, d.list (RollingFile.dirOf σ.path) = .ok names ∧ ∀ y ∈ names, (σ.log.key? y).isSome →
      ∃ a : Kept, y = σ.log.archive a.key ∧ a.On σ d ∧ may a ∧
        d.read (σ.pathOf a.key) = .ok a.content := by
  obtain ⟨above, es, hD, hes⟩ := h.entries
  have hlist : d.list (RollingFile.dirOf σ.path) = .ok (es.map (·.1)) :=
    Disk.list_ok_iff.2 ⟨σ.dirText, σ.dir, es, (LogSite.walk_dirOf h.below).2,
      Disk.entries?_eq_some.2 ⟨above, hD⟩, rfl⟩
  refine ⟨es.map (·.1), hlist, fun y hy hsome => ?_⟩
  obtain ⟨e, he, rfl⟩ := List.mem_map.1 hy
  -- the first entry of that name is the one that is found
  obtain ⟨k, hlook⟩ : ∃ k, Disk.lookup es e.1 = some k := by
    unfold Disk.lookup
    rw [← Option.isSome_iff_exists, Option.isSome_map, List.find?_isSome]
    exact ⟨e, he, by simp⟩
  obtain ⟨a, ha, hon, hmaya⟩ := hes _ (Disk.mem_of_lookup hlook) hsome
  obtain ⟨hy, rfl⟩ := Prod.ext_iff.1 ha
  simp only at hy
  rw [hy] at hlook
  exact ⟨a, hy, hon, hmaya, hon.read h.below hD hlook⟩

/-- Another file may grow. -/
theorem appended {bytes : Bytes} (h : Stored may σ d) (happ : Appended d i bytes d')
    (hne : ∀ a, may a → a.file ≠ i) : Stored may σ d' := by
  obtain ⟨above, es, hD, hes⟩ := h.entries
  refine ⟨h.below.trans happ.below, above, es, happ.dir hD, fun e he hsome => ?_⟩
  obtain ⟨a, ha, ⟨hfits, hleads, room, hroom⟩, hmaya⟩ := hes e he hsome
  refine ⟨a, ha, ⟨hfits, hleads, room, ?_⟩, hmaya⟩
  rw [happ.others _ (hne a hmaya)]
  exact hroom

/-- **Setting aside**: the active file becomes an archive, and takes the place of the one that had its name. -/
theorem setAside (h : Stored may σ d) (hact : Active σ d i content) (hne : ∀ a, may a → a.file ≠ i)
    (hperiod : key.period ≠ "") (hname : IsName (σ.log.archive key))
    (hr : d.rename σ.path (σ.pathOf key) = .ok d') :
    Stored (fun a => may a ∨ a.file = i ∧ a.content = content) σ d' ∧
      ∀ k, d'.entryAt σ.dir σ.name ≠ .ok k := by
  obtain ⟨above, es, hD, hes⟩ := h.entries
  have hkey : (σ.log.key? (σ.log.archive key)).isSome := by rw [LogName.key?_archive _ hperiod]; rfl
  obtain ⟨hfits, j, hj, hcase⟩ := Edited.of_rename h.below hD hperiod hname hr
  obtain ⟨⟨j', hj', hl⟩, room, hroom⟩ := hact
  obtain rfl : j = j' := Except.ok.inj (hj.symm.trans hj')
  rcases hcase with ⟨hk, -⟩ | hedit
  · -- no archive is the active file
    obtain ⟨-, hlook⟩ := (Disk.entryAt_eq_ok_iff hD hfits.dots).1 hk
    obtain ⟨a, ha, hon, hmaya⟩ := hes _ (Disk.mem_of_lookup hlook) hkey
    obtain ⟨-, rfl⟩ := Prod.ext_iff.1 ha
    exact (hne a hmaya (Except.ok.inj (hon.leads.symm.trans hl))).elim
  refine ⟨⟨hedit.below h.below, above, _, hedit.after, fun e he hsome => ?_⟩, hedit.gone hfits⟩
  rcases List.mem_append.1 he with he | he
  · obtain ⟨a, ha, hon, hmaya⟩ := hes e (List.mem_of_mem_filter (List.mem_of_mem_filter he)) hsome
    exact ⟨a, ha, hedit.on hon, Or.inl hmaya⟩
  · rw [List.mem_singleton.1 he]
    exact ⟨⟨key, j, i, content⟩, rfl, ⟨hfits, hl, room, hedit.file hroom⟩, Or.inr ⟨rfl, rfl⟩⟩

/-- **A new active file** is none of the archives. -/
theorem create (h : Stored may σ d) (hgone : ∀ k, d.entryAt σ.dir σ.name ≠ .ok k)
    (ho : d.openAppend σ.path = .ok (i, d')) :
    Stored (fun a => may a ∧ a.file ≠ i) σ d' ∧ Active σ d' i [] := by
  obtain ⟨above, es, hD, hes⟩ := h.entries
  obtain ⟨hedit, hact, hnone⟩ := Edited.of_create h.below hD hgone ho
  refine ⟨⟨hedit.below h.below, above, _, hedit.after, fun e he hsome => ?_⟩, hact⟩
  rcases List.mem_append.1 he with he | he
  · obtain ⟨a, ha, hon, hmaya⟩ := hes e (List.mem_of_mem_filter he) hsome
    exact ⟨a, ha, hedit.on hon, hmaya, hon.ne_of_none hnone⟩
  · rw [List.mem_singleton.1 he, σ.key?_name] at hsome
    cases hsome

/-- **Removing archives** leaves the others and the active file. -/
theorem removeAll {paths : List String} (h : Stored may σ d)
    (hpaths : ∀ p ∈ paths, ∃ y, p = Path.join (RollingFile.dirOf σ.path) y ∧ IsName y ∧ (σ.log.key? y).isSome)
    (hr : RollingFile.removeAll paths d = (.ok (), d')) :
    Stored may σ d' ∧ ∀ i content, Active σ d i content → Active σ d' i content := by
  induction paths generalizing d with
  | nil =>
    cases hr
    exact ⟨h, fun _ _ hact => hact⟩
  | cons p ps ih =>
    unfold RollingFile.removeAll at hr
    split at hr
    swap
    · cases hr
    rename_i d₁ hremove
    obtain ⟨y, rfl, hname, hsome⟩ := hpaths p List.mem_cons_self
    obtain ⟨above, es, hD, hes⟩ := h.entries
    have hedit := Edited.of_remove h.below hD hname hsome hremove
    have h₁ : Stored may σ d₁ := by
      refine ⟨hedit.below h.below, above, _, hedit.after, fun e he hkey => ?_⟩
      obtain ⟨a, ha, hon, hmaya⟩ := hes e (List.mem_of_mem_filter he) hkey
      exact ⟨a, ha, hedit.on hon, hmaya⟩
    obtain ⟨h', hact'⟩ := ih h₁ (fun q hq => hpaths q (List.mem_cons_of_mem _ hq)) hr
    exact ⟨h', fun i content hact => hact' i content (hedit.active_of_remove hsome hact)⟩

/-- **Pruning** leaves the other archives and the active file. -/
theorem prune (h : Stored may σ d) (hf : f.At σ) (hr : f.prune d = (.ok (), d')) :
    Stored may σ d' ∧ ∀ i content, Active σ d i content → Active σ d' i content := by
  unfold RollingFile.prune at hr
  split at hr
  · cases hr
  rename_i paths hexcess
  obtain ⟨names, hlist, hmem⟩ := RollingFile.mem_excess hexcess
  refine h.removeAll (fun p hp => ?_) hr
  obtain ⟨y, hy, htakes, rfl⟩ := hmem p hp
  rw [hf.dir] at hlist ⊢
  rw [hf.name] at htakes
  obtain ⟨names', hlist', hall⟩ := h.list_eq
  obtain rfl := Except.ok.inj (hlist.symm.trans hlist')
  obtain ⟨a, rfl, hon, -, -⟩ := hall y hy htakes
  exact ⟨_, rfl, hon.fits.isName, htakes⟩

end Stored

/-! ### The active file -/

/-- **What a log file may hold**: no more than the limit, or a single record. -/
def WithinLimit (limit : Nat) (records : List Bytes) (content : Bytes) : Prop :=
  content.length ≤ limit ∨ content ∈ records

instance (limit : Nat) (records : List Bytes) (content : Bytes) :
    Decidable (WithinLimit limit records content) :=
  inferInstanceAs (Decidable (_ ∨ _))

theorem WithinLimit.mono {limit : Nat} {records more : List Bytes} {content : Bytes}
    (h : WithinLimit limit records content) : WithinLimit limit (records ++ more) content :=
  h.imp_right (List.mem_append_left _)

/-- **An open log file that knows its size**, next to archives within the limit. -/
structure Counted (σ : LogSite) (policy : RollingPolicy) (records : List Bytes) (f : RollingFile) (d : Disk)
    (content : Bytes) : Prop where
  site : f.At σ
  notClosed : f.closed = false
  samePolicy : f.policy = policy
  period : ∃ t, f.period = policy.rotation.period t
  writer : ∃ w written, f.writer = some w ∧ Active σ d w.file written ∧ content = written ++ w.buffer ∧
    Stored (fun a => WithinLimit policy.maxSize records a.content ∧ a.file ≠ w.file) σ d
  size : f.size = content.length

namespace Counted

variable {σ : LogSite} {policy : RollingPolicy} {records : List Bytes} {f f' f₁ : RollingFile} {d d' d₁ : Disk}
  {content record : Bytes} {next : String} {w : LogWriter}

theorem mono {more : List Bytes} (h : Counted σ policy records f d content) :
    Counted σ policy (records ++ more) f d content := by
  obtain ⟨w, written, hw, hact, hcontent, hstored⟩ := h.writer
  exact ⟨h.site, h.notClosed, h.samePolicy, h.period,
    ⟨w, written, hw, hact, hcontent, hstored.imp (fun _ _ hmay => ⟨hmay.1.mono, hmay.2⟩)⟩, h.size⟩

/-- **A record** comes after what was there. -/
theorem append (h : Counted σ policy records f d content) (hr : f.appendRecord record d = (.ok (), f', d')) :
    Counted σ policy records f' d' (content ++ record) ∧
      (f.immediateFlush = true → ∀ w, f'.writer = some w → w.buffer = []) := by
  obtain ⟨w, written, hw, hact, rfl, hstored⟩ := h.writer
  obtain ⟨w', out, happ, hfile, hbytes, hflushed, rfl⟩ := RollingFile.appendRecord_ok hw hr
  constructor
  · constructor
    case site => exact ⟨h.site.path, h.site.dir, h.site.name⟩
    case notClosed => exact h.notClosed
    case samePolicy => exact h.samePolicy
    case period => exact h.period
    case writer =>
      refine ⟨w', written ++ out, rfl, ?_, ?_, ?_⟩
      · rw [hfile]
        exact hact.appended happ
      · rw [List.append_assoc, hbytes, List.append_assoc]
      · rw [hfile]
        exact hstored.appended happ (fun _ hmay => hmay.2)
    case size =>
      show f.size + record.length = _
      rw [h.size]
      exact List.length_append.symm
  · intro himmediate w₁ hw₁
    obtain rfl := Option.some.inj hw₁
    exact hflushed himmediate

/-- **What is handed over** is in the file then. -/
theorem handed (h : Counted σ policy records f d content) (hd : f.Handed d d') :
    ∃ w, f.writer = some w ∧ Active σ d' w.file content ∧
      Stored (fun a => WithinLimit policy.maxSize records a.content ∧ a.file ≠ w.file) σ d' := by
  obtain ⟨w, written, hw, hact, rfl, hstored⟩ := h.writer
  unfold RollingFile.Handed at hd
  rw [hw] at hd
  exact ⟨w, hw, hact.appended hd, hstored.appended hd (fun _ hmay => hmay.2)⟩

/-- **Letting go of the writer** leaves everything in the file. -/
theorem settle (h : Counted σ policy records f d content) (hr : f.settle d = (.ok (), f₁, d₁)) :
    ∃ i, Active σ d₁ i content ∧
      Stored (fun a => WithinLimit policy.maxSize records a.content ∧ a.file ≠ i) σ d₁ := by
  obtain ⟨w, written, hw, hact, rfl, hstored⟩ := h.writer
  obtain ⟨happ, -⟩ := RollingFile.settle_ok hw hr
  exact ⟨w.file, hact.appended happ, hstored.appended happ (fun _ hmay => hmay.2)⟩

/-- **A new file is begun**, which is empty and none of the archives. The content is in one of these, if there
was any. -/
theorem renew (h : Counted σ policy records f d content) (hlimit : WithinLimit policy.maxSize records content)
    (hnext : ∃ t, next = policy.rotation.period t) (hr : f.renew next d = (.ok (), f', d')) :
    Counted σ policy records f' d' [] := by
  obtain ⟨d₁, i, hsettle, rfl, hcase⟩ := RollingFile.renew_ok hr
  obtain ⟨k, hact, hstored⟩ := h.settle hsettle
  rw [h.site.path] at hcase
  have hnew : Active σ d' i [] ∧
      Stored (fun a => WithinLimit policy.maxSize records a.content ∧ a.file ≠ i) σ d' := by
    rcases hcase with ⟨hzero, hopen⟩ | ⟨-, target, d₂, htarget, hrename, hopen⟩
    · obtain ⟨rfl, rfl⟩ := hact.openAppend hstored.below hopen
      have hnil : content = [] := List.length_eq_zero_iff.1 (h.size.symm.trans hzero)
      rw [hnil] at hact
      exact ⟨hact, hstored⟩
    · obtain ⟨index, rfl⟩ := RollingFile.nextArchive_ok htarget
      rw [h.site.dir, h.site.name] at hrename
      obtain ⟨hnonempty, hname⟩ := σ.archive_of_clock ⟨f.period, index⟩ h.period
      obtain ⟨hstored₂, hgone⟩ := hstored.setAside hact (fun _ hmay => hmay.2) hnonempty hname hrename
      obtain ⟨hstored', hact'⟩ := hstored₂.create hgone hopen
      refine ⟨hact', hstored'.imp (fun a _ hmay => ⟨?_, hmay.2⟩)⟩
      -- what is new among the archives is the file that was set aside
      rcases hmay.1 with hold | ⟨-, hcontent⟩
      · exact hold.1
      · rw [hcontent]
        exact hlimit
  exact ⟨⟨h.site.path, h.site.dir, h.site.name⟩, h.notClosed, h.samePolicy, hnext,
    ⟨{ file := i }, [], rfl, hnew.1, rfl, hnew.2⟩, rfl⟩

/-- **A roll** begins an empty file, with the content in an archive. -/
theorem roll (h : Counted σ policy records f d content) (hlimit : WithinLimit policy.maxSize records content)
    (hnext : ∃ t, next = policy.rotation.period t) (hr : f.roll next d = (.ok (), f', d')) :
    Counted σ policy records f' d' [] := by
  unfold RollingFile.roll at hr
  split at hr
  · cases hr
  rename_i f₁ d₁ hrenew
  have hnew := h.renew hlimit hnext hrenew
  obtain ⟨w, written, hw, hact, hcontent, hstored⟩ := hnew.writer
  rcases hprune : f₁.prune d₁ with ⟨r, d₂⟩
  rw [hprune] at hr
  cases hr
  obtain ⟨hstored', hact'⟩ := hstored.prune hnew.site hprune
  exact ⟨hnew.site, hnew.notClosed, hnew.samePolicy, hnew.period,
    ⟨w, written, hw, hact' _ _ hact, hcontent, hstored'⟩, hnew.size⟩

/-- **Handed over to another** that opened the file while nothing was buffered. -/
theorem handOver {immediateFlush : Bool} {now modified : Instant} (h : Counted σ policy records f d content)
    (hempty : ∀ w, f.writer = some w → w.buffer = [])
    (ho : RollingFile.openAt σ.path policy immediateFlush now modified d = (.ok f₁, d₁))
    (hd : f.Handed d₁ d') :
    Counted σ policy records f₁ d' content ∧ ∀ w, f₁.writer = some w → w.buffer = [] := by
  obtain ⟨w, written, hw, hact, rfl, hstored⟩ := h.writer
  obtain ⟨names, hlist, -⟩ := hstored.list_eq
  obtain ⟨rfl, hsite, hopen, hw₁, hsize, hpolicy, -, hperiod⟩ := hact.openAt hstored.below hlist ho
  obtain ⟨w', hw', hact', hstored'⟩ := h.handed hd
  obtain rfl : w' = w := Option.some.inj (hw'.symm.trans hw)
  -- what the new file counted when it was opened is all there is
  have hnil := hempty w' hw
  rw [hnil, List.append_nil] at hact' ⊢
  refine ⟨⟨hsite, hopen, hpolicy, ⟨_, hperiod⟩,
    ⟨_, written, hw₁, hact', (List.append_nil _).symm, hstored'⟩, hsize⟩, fun w₁ hw₂ => ?_⟩
  rw [hw₁] at hw₂
  rw [← Option.some.inj hw₂]

end Counted

/-- **A log file within the limit**: what it holds, and what its archives hold, is no more than the limit or a
single record. If every record is to be flushed, nothing is buffered. -/
structure Bounded (σ : LogSite) (policy : RollingPolicy) (records : List Bytes) (f : RollingFile) (d : Disk) :
    Prop where
  counted : ∃ content, Counted σ policy records f d content ∧ WithinLimit policy.maxSize records content
  flushed : f.immediateFlush = true → ∀ w, f.writer = some w → w.buffer = []

namespace Bounded

variable {σ : LogSite} {policy : RollingPolicy} {records : List Bytes} {f f' f₁ : RollingFile} {d d' d₁ : Disk}
  {record : Bytes} {now modified : Instant} {immediateFlush : Bool}

/-- **A record keeps the log file within the limit**: it rolls over before the file grows beyond it. -/
theorem write (h : Bounded σ policy records f d) (hr : f.write record now d = (.ok (), f', d')) :
    Bounded σ policy (records ++ [record]) f' d' := by
  obtain ⟨content, hcounted, hlimit⟩ := h.counted
  have hlog := RollingFile.sameLog_write f record now d
  rw [hr] at hlog
  rcases RollingFile.write_ok hcounted.notClosed hr with ⟨hrolls, -, happend⟩ | ⟨-, f₂, d₂, hroll, happend⟩
  · obtain ⟨hcounted', hflushed⟩ := hcounted.append happend
    refine ⟨⟨content ++ record, hcounted'.mono, ?_⟩, fun himm => hflushed (hlog.immediateFlush.symm.trans himm)⟩
    -- the file was empty, or there was room for the record
    unfold RollingFile.rolls RollingFile.mustRoll at hrolls
    rw [hcounted.notClosed, hcounted.samePolicy, hcounted.size] at hrolls
    simp only [Bool.not_false, Bool.true_and, Bool.or_eq_false_iff, Bool.and_eq_false_iff,
      decide_eq_false_iff_not, not_lt, Nat.le_zero, List.length_eq_zero_iff] at hrolls
    rcases hrolls.2 with rfl | hroom
    · exact Or.inr (by simp)
    · exact Or.inl (by rw [List.length_append]; exact hroom)
  · rw [hcounted.samePolicy] at hroll
    have hcounted₂ := hcounted.roll hlimit ⟨now, rfl⟩ hroll
    obtain ⟨hcounted', hflushed⟩ := hcounted₂.append happend
    have hlog₂ := RollingFile.sameLog_roll f (policy.rotation.period now) d
    rw [hroll] at hlog₂
    refine ⟨⟨[] ++ record, hcounted'.mono, Or.inr (by simp)⟩, fun himm => hflushed ?_⟩
    exact hlog₂.immediateFlush.trans (hlog.immediateFlush.symm.trans himm)

/-- **Handed over to another** that opened the file while nothing was buffered. -/
theorem handOver (h : Bounded σ policy records f d) (hempty : ∀ w, f.writer = some w → w.buffer = [])
    (ho : RollingFile.openAt σ.path policy immediateFlush now modified d = (.ok f₁, d₁))
    (hd : f.Handed d₁ d') : Bounded σ policy records f₁ d' := by
  obtain ⟨content, hcounted, hlimit⟩ := h.counted
  obtain ⟨hcounted', hempty'⟩ := hcounted.handOver hempty ho hd
  exact ⟨⟨content, hcounted', hlimit⟩, fun _ => hempty'⟩

/-- **A log file that was just opened** is within the limit if it is empty and has no archives. -/
theorem of_open {path : String} (ho : RollingFile.openAt path policy immediateFlush now modified d = (.ok f, d'))
    (hnone : f.archives d' = .ok []) (hread : d'.read path = .ok []) :
    ∃ σ : LogSite, σ.path = path ∧ Bounded σ policy [] f d' := by
  obtain ⟨σ, hpath, hstand, hpolicy, hperiod, -⟩ := Stand.of_open ho hnone hread
  obtain ⟨w, written, hw, hact, hcontent, -⟩ := hstand.writer
  obtain ⟨rfl, hbuffer⟩ := List.append_eq_nil_iff.1 hcontent.symm
  refine ⟨σ, hpath, ⟨[], ⟨hstand.site, hstand.notClosed, hpolicy, ⟨_, hperiod⟩,
    ⟨w, [], hw, hact, hcontent, .of_shelf_nil hstand.shelf⟩, hstand.size⟩, Or.inl (Nat.zero_le _)⟩, ?_⟩
  intro _ w' hw'
  rw [← Option.some.inj (hw.symm.trans hw')]
  exact hbuffer

/-- **What is to be read in the end**, when everything was handed over. -/
theorem read (h : Bounded σ policy records f d) (hd : f.Handed d d') :
    ∃ paths active, f.archives d' = .ok paths ∧ d'.read σ.path = .ok active ∧
      WithinLimit policy.maxSize records active ∧
      ∀ p ∈ paths, ∃ content, d'.read p = .ok content ∧ WithinLimit policy.maxSize records content := by
  obtain ⟨content, hcounted, hlimit⟩ := h.counted
  obtain ⟨w, -, hact, hstored⟩ := hcounted.handed hd
  obtain ⟨names, hlist, hall⟩ := hstored.list_eq
  have hsite := hcounted.site
  obtain ⟨paths, hpaths⟩ : ∃ paths, f.archives d' = .ok paths := by
    unfold RollingFile.archives RollingFile.keyedArchives
    rw [hsite.dir, hlist]
    exact ⟨_, rfl⟩
  refine ⟨paths, content, hpaths, hact.read hstored.below, hlimit, fun p hp => ?_⟩
  obtain ⟨names', hlist', hmem⟩ := RollingFile.mem_archives_iff hpaths
  rw [hsite.dir] at hlist' hmem
  rw [hsite.name] at hmem
  obtain rfl := Except.ok.inj (hlist.symm.trans hlist')
  obtain ⟨y, hy, htakes, rfl⟩ := (hmem p).1 hp
  obtain ⟨a, rfl, -, hmay, hread⟩ := hall y hy htakes
  exact ⟨a.content, hread, hmay.1⟩

end Bounded

end ModuleHost
