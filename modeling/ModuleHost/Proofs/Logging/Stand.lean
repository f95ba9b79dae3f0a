import Mathlib
import ModuleHost.Proofs.Logging.Identity
import ModuleHost.Proofs.Logging.Shelf
import ModuleHost.Proofs.Logging.Track

/-!
# How a log file stands

What an open log file, its buffer and its directory have to do with each other, and what each call does to
that.

* `Holding`: the file is where it should be, the archives are in order, and the active file with the buffer
  holds a known content. The size that the file believes to have may be another.
* `Keeping`: the same with the archives in any order. `Keeping.append`, `Keeping.renew`, `Keeping.roll`: what each
  call does, whatever the periods of the archives.
* `Holding.append`, `Holding.flush`, `Holding.renew`, `Holding.roll`: one lemma for each call, with the archives
  in order.
* `Active.openAt`: opening a log file that is there.
* `Stand`: the same, and the file knows its size. `Stand.reopen`: opened anew, the file goes on where it was.
* `Stand.of_open`: how a log file stands when it is first opened.
-/

namespace ModuleHost

open Disk (Appended Below checkText)
open ModuleHost.Path (EndsIn)

/-- **What an open log file holds**: the archives in its directory, and the active file together with the buffer
in front of it. -/
structure Holding (σ : LogSite) (f : RollingFile) (d : Disk) (as : List Kept) (content : Bytes) : Prop where
  site : f.At σ
  notClosed : f.closed = false
  shelf : Shelf σ d as
  writer : ∃ w written, f.writer = some w ∧ Active σ d w.file written ∧ content = written ++ w.buffer ∧
    ∀ a ∈ as, a.file ≠ w.file

/-- **What an open log file keeps**: the same, with the archives in any order. -/
structure Keeping (σ : LogSite) (f : RollingFile) (d : Disk) (as : List Kept) (content : Bytes) : Prop where
  site : f.At σ
  notClosed : f.closed = false
  stock : Stock σ d as
  writer : ∃ w written, f.writer = some w ∧ Active σ d w.file written ∧ content = written ++ w.buffer ∧
    ∀ a ∈ as, a.file ≠ w.file

theorem Holding.keeping {σ : LogSite} {f : RollingFile} {d : Disk} {as : List Kept} {content : Bytes}
    (h : Holding σ f d as content) : Keeping σ f d as content :=
  ⟨h.site, h.notClosed, h.shelf.stock, h.writer⟩

theorem Keeping.holding {σ : LogSite} {f : RollingFile} {d : Disk} {as : List Kept} {content : Bytes}
    (h : Keeping σ f d as content) (holder : as.Pairwise (fun a b => a.key.Older b.key)) :
    Holding σ f d as content :=
  ⟨h.site, h.notClosed, h.stock.shelf holder, h.writer⟩

/-- **How an open log file stands**: the archives in its directory, and what the active file holds together
with the buffer in front of it. -/
structure Stand (σ : LogSite) (f : RollingFile) (d : Disk) (as : List Kept) (content : Bytes) : Prop where
  site : f.At σ
  notClosed : f.closed = false
  shelf : Shelf σ d as
  writer : ∃ w written, f.writer = some w ∧ Active σ d w.file written ∧ content = written ++ w.buffer ∧
    ∀ a ∈ as, a.file ≠ w.file
  size : f.size = content.length

theorem Stand.holding {σ : LogSite} {f : RollingFile} {d : Disk} {as : List Kept} {content : Bytes}
    (h : Stand σ f d as content) : Holding σ f d as content :=
  ⟨h.site, h.notClosed, h.shelf, h.writer⟩

theorem Holding.stand {σ : LogSite} {f : RollingFile} {d : Disk} {as : List Kept} {content : Bytes}
    (h : Holding σ f d as content) (hsize : f.size = content.length) : Stand σ f d as content :=
  ⟨h.site, h.notClosed, h.shelf, h.writer, hsize⟩

namespace RollingFile

variable {f f' : RollingFile} {d d' : Disk} {w : LogWriter} {record : Bytes}

/-! ### Calls on the writer -/

theorem appendRecord_ok (hw : f.writer = some w) (h : f.appendRecord record d = (.ok (), f', d')) :
    ∃ w' out, Appended d w.file out d' ∧ w'.file = w.file ∧ w.buffer ++ record = out ++ w'.buffer ∧
      (f.immediateFlush = true → w'.buffer = []) ∧
      f' = { f with writer := some w', size := f.size + record.length } := by
  unfold appendRecord ensureWriter at h
  rw [hw] at h
  simp only at h
  split at h
  · cases h
  · rename_i w₁ d₁ hput
    obtain ⟨hfile, out, happ, hbytes⟩ := LogWriter.put_ok hput
    split at h
    · split at h
      · cases h
      · rename_i w₂ d₂ hflush
        cases h
        obtain ⟨happ', rfl⟩ := LogWriter.flush_ok hflush
        rw [hfile] at happ'
        exact ⟨{ w₁ with buffer := [] }, out ++ w₁.buffer, happ.trans happ', hfile, by rw [hbytes]; simp,
          fun _ => rfl, rfl⟩
    · rename_i himmediate
      cases h
      exact ⟨w₁, out, happ, hfile, hbytes, fun h => absurd h himmediate, rfl⟩

theorem flush_ok (hw : f.writer = some w) (h : f.flush d = (.ok (), f', d')) :
    Appended d w.file w.buffer d' ∧ f' = { f with writer := some { w with buffer := [] } } := by
  unfold flush at h
  rw [hw] at h
  simp only at h
  rcases hflush : w.flush d with ⟨r, w₁, d₁⟩
  rw [hflush] at h
  cases h
  obtain ⟨happ, rfl⟩ := LogWriter.flush_ok hflush
  exact ⟨happ, rfl⟩

theorem settle_ok (hw : f.writer = some w) (h : f.settle d = (.ok (), f', d')) :
    Appended d w.file w.buffer d' ∧ f' = { f with writer := none } := by
  unfold settle at h
  rw [hw] at h
  simp only at h
  split at h
  · rename_i w₁ d₁ hflush
    cases h
    exact ⟨(LogWriter.flush_ok hflush).1, rfl⟩
  · cases h

theorem archiveMade_of_empty (hs : f.settle d = (.ok (), f', d')) (hsize : f.size = 0) :
    f.archiveMade d = [] := by
  have hf' := settle_eq f d
  rw [hs] at hf'
  subst hf'
  unfold archiveMade
  simp only [hs, hsize, if_true]

theorem archiveMade_of_read {target : String} {content : Bytes} (hs : f.settle d = (.ok (), f', d'))
    (hsize : f.size ≠ 0) (hnext : f.nextArchive d' = .ok target) (hread : d'.read f.path = .ok content) :
    f.archiveMade d = [(target, content)] := by
  have hf' := settle_eq f d
  rw [hs] at hf'
  subst hf'
  have hnext' : { f with writer := none }.nextArchive d' = .ok target := hnext
  unfold archiveMade
  simp only [hs, if_neg hsize, hnext', hread]

/-- **The steps of a new file**: the buffer is handed over; if anything was written, the file moves to the next
archive; and then the file is opened, which makes it anew if it moved. -/
theorem renew_ok {next : String} (h : f.renew next d = (.ok (), f', d')) :
    ∃ d₁ i, f.settle d = (.ok (), { f with writer := none }, d₁) ∧
      f' = { f with writer := some { file := i }, size := 0, period := next } ∧
      (f.size = 0 ∧ d₁.openAppend f.path = .ok (i, d') ∨
        f.size ≠ 0 ∧ ∃ target d₂, f.nextArchive d₁ = .ok target ∧ d₁.rename f.path target = .ok d₂ ∧
          d₂.openAppend f.path = .ok (i, d')) := by
  unfold renew setAside at h
  split at h
  · cases h
  rename_i f₁ d₁ hsettle
  have hf₁ := settle_eq f d
  rw [hsettle] at hf₁
  subst hf₁
  by_cases hsize : f.size = 0
  · rw [if_pos hsize] at h
    simp only at h
    split at h
    · cases h
    · rename_i i d₂ hopen
      cases h
      exact ⟨d₁, i, hsettle, rfl, Or.inl ⟨hsize, hopen⟩⟩
  · rw [if_neg hsize] at h
    have hsame : { f with writer := none }.nextArchive d₁ = f.nextArchive d₁ := rfl
    rw [hsame] at h
    cases hnext : f.nextArchive d₁ with
    | error e =>
      rw [hnext] at h
      cases h
    | ok target =>
      cases hrename : d₁.rename f.path target with
      | error e =>
        simp only [hnext, hrename] at h
        cases h
      | ok d₂ =>
        simp only [hnext, hrename] at h
        split at h
        · cases h
        · rename_i i d₃ hopen
          cases h
          exact ⟨d₁, i, hsettle, rfl, Or.inr ⟨hsize, target, d₂, hnext, hrename, hopen⟩⟩

/-! ### Opening -/

section Opening

variable {path : String} {policy : RollingPolicy} {immediateFlush : Bool} {now modified : Instant}
  {content : Bytes}

/-- **What opening does**: the directory is made, and the file in it is opened at its end. -/
theorem openAt_ok (h : openAt path policy immediateFlush now modified d = (.ok f, d')) :
    ∃ d₁ x i, Disk.createDirs (dirOf path) d = (.ok (), d₁) ∧ d₁.openAppend path = .ok (i, d') ∧
      EndsIn path x ∧
      f = {
        path, dir := dirOf path, name := ⟨(Path.splitName x).1, (Path.splitName x).2⟩, policy
        immediateFlush, writer := some { file := i }, size := d'.length i
        period := policy.rotation.period (if 0 < d'.length i then modified else now) } := by
  unfold openAt at h
  split at h
  · cases h
  rename_i d₁ hdirs
  split at h
  · cases h
  rename_i stem hstem
  split at h
  · cases h
  rename_i i d₂ hopen
  cases h
  obtain ⟨x, D, hends, -⟩ := Disk.openAppendAt_ok (Disk.openAppend_ok hopen).2
  rw [hends.stem?_eq] at hstem
  cases hstem
  rw [hends.extension?_eq]
  exact ⟨d₁, x, i, hdirs, hopen, hends, rfl⟩

/-- **Opening a log file that is there** changes nothing on the disk. -/
theorem openAt_of_read (h : openAt path policy immediateFlush now modified d = (.ok f, d'))
    (htext : checkText (dirOf path) = .ok ()) (hread : d.read path = .ok content) : d' = d := by
  obtain ⟨d₁, x, i, hdirs, hopen, hends, -⟩ := openAt_ok h
  obtain ⟨-, k, room, hk, hfile⟩ := Disk.read_ok_iff.1 hread
  obtain ⟨D, hD, hx⟩ := Disk.walk_append_ok_iff.1 (Disk.fullSteps_of_endsIn hends ▸ hk)
  have hdir := Disk.isDirNode_of_walk_cons hx
  obtain ⟨above, es, hnode⟩ := Disk.isDirNode_iff.1 hdir
  have hlist : d.list (dirOf path) = .ok (es.map (·.1)) :=
    Disk.list_ok_iff.2 ⟨htext, D, es, (Disk.walk_dirOf hends hdir hD).2,
      Disk.entries?_eq_some.2 ⟨above, hnode⟩, rfl⟩
  rw [Disk.createDirs_of_list hlist] at hdirs
  cases hdirs
  exact (Disk.openAppendAt_of_walk hk hfile (Disk.openAppend_ok hopen).2).2

/-- **The archives that are listed** are the names in the directory that are taken. -/
theorem mem_archives_iff {paths : List String} (h : f.archives d = .ok paths) :
    ∃ names, d.list f.dir = .ok names ∧
      ∀ p, p ∈ paths ↔ ∃ y ∈ names, f.name.Takes y ∧ p = Path.join f.dir y := by
  unfold archives keyedArchives at h
  split at h
  · rename_i names hlist
    cases h
    refine ⟨names, hlist, fun p => ?_⟩
    rw [List.mem_map]
    constructor
    · rintro ⟨⟨k, y⟩, ha, rfl⟩
      obtain ⟨z, hz, hk⟩ := List.mem_filterMap.1 (LogName.mem_archivesAmong.1 ha)
      obtain ⟨k', hk', heq⟩ := Option.map_eq_some_iff.1 hk
      cases heq
      exact ⟨y, hz, Option.isSome_iff_exists.2 ⟨k, hk'⟩, rfl⟩
    · rintro ⟨y, hy, htakes, rfl⟩
      obtain ⟨k, hk⟩ := Option.isSome_iff_exists.1 htakes
      exact ⟨(k, y), LogName.mem_archivesAmong.2 (List.mem_filterMap.2 ⟨y, hy, by rw [hk]; rfl⟩), rfl⟩
  · cases h

/-- **The archives that are to be removed** are among those that are listed. -/
theorem mem_excess {paths : List String} (h : f.excess d = .ok paths) :
    ∃ names, d.list f.dir = .ok names ∧
      ∀ p ∈ paths, ∃ y ∈ names, f.name.Takes y ∧ p = Path.join f.dir y := by
  unfold excess at h
  cases harchives : f.archives d with
  | error e =>
    rw [harchives] at h
    cases h
  | ok listed =>
    rw [harchives] at h
    cases h
    obtain ⟨names, hlist, hmem⟩ := mem_archives_iff harchives
    exact ⟨names, hlist, fun p hp => (hmem p).1 (List.mem_of_mem_take hp)⟩

/-- The next archive has the next number. -/
theorem nextArchive_of_nextIndex {names : List String} {index : UInt64} (hlist : d.list f.dir = .ok names)
    (hnext : f.name.nextIndex f.period names = some index) :
    f.nextArchive d = .ok (Path.join f.dir (f.name.archive ⟨f.period, index⟩)) := by
  unfold nextArchive
  simp only [hlist, hnext]

/-- Without a next number, there is no next archive. -/
theorem nextArchive_of_none {names : List String} (hlist : d.list f.dir = .ok names)
    (hnext : f.name.nextIndex f.period names = none) : f.nextArchive d = .error .overflow := by
  unfold nextArchive
  simp only [hlist, hnext]

/-- The next archive is one of the period of the file. -/
theorem nextArchive_ok {target : String} (h : f.nextArchive d = .ok target) :
    ∃ index, target = Path.join f.dir (f.name.archive ⟨f.period, index⟩) := by
  unfold nextArchive at h
  split at h
  · cases h
  split at h
  · cases h
  · rename_i index _
    exact ⟨index, (Except.ok.inj h).symm⟩

/-- If no archives are listed, no name in the directory is an archive's. -/
theorem key?_of_archives_nil (h : f.archives d = .ok []) :
    ∃ names, d.list f.dir = .ok names ∧ ∀ y ∈ names, f.name.key? y = none := by
  obtain ⟨names, hlist, hmem⟩ := mem_archives_iff h
  refine ⟨names, hlist, fun y hy => ?_⟩
  by_contra hkey
  exact List.not_mem_nil ((hmem (Path.join f.dir y)).2 ⟨y, hy, Option.isSome_iff_ne_none.2 hkey, rfl⟩)

end Opening

end RollingFile

section

variable {σ : LogSite} {d d' : Disk} {i : NodeId} {written : Bytes} {f : RollingFile}

/-- **Opening a log file that is there** leaves the disk as it is, whoever else has it open. What is counted is
what the file holds by then. -/
theorem Active.openAt {policy : RollingPolicy} {immediateFlush : Bool} {now modified : Instant}
    {names : List String} (h : Active σ d i written) (hb : Below σ.base d)
    (hlist : d.list (RollingFile.dirOf σ.path) = .ok names)
    (ho : RollingFile.openAt σ.path policy immediateFlush now modified d = (.ok f, d')) :
    d' = d ∧ f.At σ ∧ f.closed = false ∧ f.writer = some { file := i } ∧ f.size = written.length ∧
      f.policy = policy ∧ f.immediateFlush = immediateFlush ∧
      f.period = policy.rotation.period (if 0 < written.length then modified else now) := by
  obtain ⟨d₁, x, k, hdirs, hopen, hends, rfl⟩ := RollingFile.openAt_ok ho
  rw [Disk.createDirs_of_list hlist] at hdirs
  cases hdirs
  obtain ⟨rfl, rfl⟩ := h.openAppend hb hopen
  obtain rfl : x = σ.name := Option.some.inj (hends.steps.symm.trans σ.ends.steps)
  have hlength := h.length_eq
  refine ⟨rfl, ⟨rfl, rfl, rfl⟩, rfl, rfl, hlength, rfl, rfl, ?_⟩
  simp only [hlength]

end

/-- **The archives that a roll removes** are the first in the order of the keys, once the new file is begun. -/
theorem Stock.archivesRemoved {σ : LogSite} {f f₁ : RollingFile} {d d₁ : Disk} {as bs : List Kept} {next : String}
    (h : Stock σ d₁ as) (hf : f₁.At σ) (hperm : bs.Perm as) (holder : bs.Pairwise (fun a b => a.key.Older b.key))
    (hrenew : f.renew next d = (.ok (), f₁, d₁)) :
    f.archivesRemoved next d = (bs.take (bs.length - f₁.policy.maxHistory)).map (fun a => a.item σ) := by
  unfold RollingFile.archivesRemoved
  rw [hrenew]
  simp only
  rw [h.excess hf hperm holder]
  simp only [List.filterMap_map]
  rw [← List.filterMap_eq_map]
  refine List.filterMap_congr (fun a ha => ?_)
  simp [h.read (hperm.mem_iff.1 (List.mem_of_mem_take ha)), Kept.item, Except.toOption]

namespace Keeping

variable {σ : LogSite} {f f' f₁ : RollingFile} {d d' d₁ : Disk} {as : List Kept} {content record : Bytes}
  {next : String}

/-! ### What each call does, whatever the order of the archives -/

/-- **A record** comes after what was there. -/
theorem append (h : Keeping σ f d as content) (hr : f.appendRecord record d = (.ok (), f', d')) :
    Keeping σ f' d' as (content ++ record) ∧ f'.size = f.size + record.length ∧
      f'.policy = f.policy ∧ f'.period = f.period := by
  obtain ⟨w, written, hw, hact, rfl, hne⟩ := h.writer
  obtain ⟨w', out, happ, hfile, hbytes, -, rfl⟩ := RollingFile.appendRecord_ok hw hr
  refine ⟨⟨⟨h.site.path, h.site.dir, h.site.name⟩, h.notClosed, h.stock.appended happ hne,
    ⟨w', written ++ out, rfl, ?_, ?_, ?_⟩⟩, rfl, rfl, rfl⟩
  · rw [hfile]
    exact hact.appended happ
  · rw [List.append_assoc, hbytes, List.append_assoc]
  · rw [hfile]
    exact hne

/-- Letting go of the writer leaves everything in the file. -/
theorem settle (h : Keeping σ f d as content) (hr : f.settle d = (.ok (), f₁, d₁)) :
    ∃ i, Stock σ d₁ as ∧ Active σ d₁ i content ∧ ∀ a ∈ as, a.file ≠ i := by
  obtain ⟨w, written, hw, hact, rfl, hne⟩ := h.writer
  obtain ⟨happ, -⟩ := RollingFile.settle_ok hw hr
  exact ⟨w.file, h.stock.appended happ hne, hact.appended happ, hne⟩

/-- **A new file is begun**: what the old one held is in a new archive, which is newer than those that are not of
a later period. A file that believes to be empty stays in use, with what it holds. -/
theorem renew {m : Nat} (h : Keeping σ f d as content) (hm : m < UInt64.size)
    (hperiod : ∃ t, f.period = f.policy.rotation.period t) (hindex : ∀ a ∈ as, a.key.index.toNat < m)
    (hr : f.renew next d = (.ok (), f', d')) :
    ∃ (new : List Kept) (rest : Bytes) (i : NodeId),
      f' = { f with writer := some { file := i }, size := 0, period := next } ∧ Stock σ d' (as ++ new) ∧
      Active σ d' i rest ∧ (∀ a ∈ as ++ new, a.file ≠ i) ∧ f.archiveMade d = new.map (fun a => a.item σ) ∧
      (f.size = 0 ∧ new = [] ∧ rest = content ∨ f.size ≠ 0 ∧ rest = [] ∧ new.map (·.content) = [content]) ∧
      ∀ a ∈ new, a.key.period = f.period ∧ a.key.index.toNat ≤ m ∧
        ∀ b ∈ as, b.key.period ≤ f.period → b.key.Older a.key := by
  obtain ⟨d₁, i, hs, rfl, hcase⟩ := RollingFile.renew_ok hr
  obtain ⟨k, hstock₁, hact, hne⟩ := h.settle hs
  rw [h.site.path] at hcase
  rcases hcase with ⟨hsize, hopen⟩ | ⟨hsize, target, d₂, htarget, hrename, hopen⟩
  · -- nothing was written, as far as it is known, and the file stays in use
    obtain ⟨rfl, rfl⟩ := hact.openAppend hstock₁.below hopen
    refine ⟨[], content, i, rfl, ?_, hact, by simpa using hne, RollingFile.archiveMade_of_empty hs hsize,
      Or.inl ⟨hsize, rfl, rfl⟩, by simp⟩
    rw [List.append_nil]
    exact hstock₁
  · -- what was written moves to the next archive, and the active file is made anew
    obtain ⟨index, hnext, hindexle, holder⟩ := hstock₁.nextArchive h.site hm hindex
    obtain rfl : target = σ.pathOf ⟨f.period, index⟩ := Except.ok.inj (htarget.symm.trans hnext)
    obtain ⟨hnonempty, hname⟩ := σ.archive_of_clock ⟨f.period, index⟩ hperiod
    have hfree : ∀ a ∈ as, a.key ≠ ⟨f.period, index⟩ := fun a ha heq =>
      (holder a ha (le_of_eq (congrArg ArchiveKey.period heq))).ne heq
    obtain ⟨j, hstock, hgone⟩ := hstock₁.setAside hact hnonempty hname hfree hrename
    obtain ⟨hstock', hact', hne'⟩ := hstock.create hgone hopen
    refine ⟨[⟨⟨f.period, index⟩, j, k, content⟩], [], i, rfl, hstock', hact', hne', ?_,
      Or.inr ⟨hsize, rfl, rfl⟩, ?_⟩
    · refine RollingFile.archiveMade_of_read hs hsize hnext ?_
      rw [h.site.path]
      exact hact.read hstock₁.below
    · intro a ha
      rw [List.mem_singleton.1 ha]
      exact ⟨rfl, hindexle, holder⟩

/-- **A roll**: the old file goes to the archives, and the first of these in the order of their keys are
removed. -/
theorem roll {m : Nat} (h : Keeping σ f d as content) (hm : m < UInt64.size)
    (hperiod : ∃ t, f.period = f.policy.rotation.period t) (hindex : ∀ a ∈ as, a.key.index.toNat < m)
    (hr : f.roll next d = (.ok (), f', d')) :
    ∃ (new kept gone : List Kept) (rest : Bytes), (kept ++ gone).Perm (as ++ new) ∧ Keeping σ f' d' kept rest ∧
      f'.size = 0 ∧ f'.policy = f.policy ∧ f'.period = next ∧
      f.archiveMade d = new.map (fun a => a.item σ) ∧ f.archivesRemoved next d = gone.map (fun a => a.item σ) ∧
      (f.size = 0 ∧ new = [] ∧ rest = content ∨ f.size ≠ 0 ∧ rest = [] ∧ new.map (·.content) = [content]) ∧
      (∀ a ∈ new, a.key.period = f.period ∧ a.key.index.toNat ≤ m) ∧
      (as ++ new).Pairwise (fun a b => a.key ≠ b.key) := by
  unfold RollingFile.roll at hr
  split at hr
  · cases hr
  rename_i f₁ d₁ hrenew
  obtain ⟨new, rest, i, rfl, hstock, hact, hne, hmade, hmoved, hnew⟩ := h.renew hm hperiod hindex hrenew
  obtain ⟨bs, hperm, holder⟩ := ArchiveKey.exists_older Kept.key hstock.distinct
  rcases hprune : { f with writer := some { file := i }, size := 0, period := next }.prune d₁ with ⟨r, d₂⟩
  rw [hprune] at hr
  cases hr
  have hsite : { f with writer := some { file := i }, size := 0, period := next }.At σ :=
    ⟨h.site.path, h.site.dir, h.site.name⟩
  obtain ⟨hstock', hactive⟩ := hstock.prune hsite hperm holder hprune
  have hremoved := hstock.archivesRemoved hsite hperm holder hrenew
  have hdistinct : bs.Pairwise (fun a b => a.key ≠ b.key) := holder.imp fun hab => hab.ne
  generalize hcount : bs.length - f.policy.maxHistory = n at hstock' hremoved
  -- in the order of the keys, those that are removed come before those that are kept
  have hkept : ((as ++ new).filter (fun a => a.key ∉ (bs.take n).map (·.key))).Perm (bs.drop n) := by
    rw [← filter_not_mem_take n hdistinct]
    exact (hperm.filter _).symm
  refine ⟨new, _, bs.take n, rest, ?_, ⟨hsite, h.notClosed, hstock', ?_⟩, rfl, rfl, rfl, hmade, hremoved, hmoved,
    fun a ha => ⟨(hnew a ha).1, (hnew a ha).2.1⟩, hstock.distinct⟩
  · refine ((hkept.append_right _).trans List.perm_append_comm).trans ?_
    rw [List.take_append_drop]
    exact hperm
  · exact ⟨{ file := i }, rest, rfl, hactive _ _ hact, (List.append_nil _).symm,
      fun a ha => hne a (List.mem_of_mem_filter ha)⟩

end Keeping

namespace Holding

variable {σ : LogSite} {f f' f₁ : RollingFile} {d d' d₁ : Disk} {as : List Kept} {content record : Bytes}
  {next : String}

/-! ### What each call does -/

/-- **A record** comes after what was there. -/
theorem append (h : Holding σ f d as content) (hr : f.appendRecord record d = (.ok (), f', d')) :
    Holding σ f' d' as (content ++ record) ∧ f'.size = f.size + record.length ∧
      f'.policy = f.policy ∧ f'.period = f.period := by
  obtain ⟨hkeeping, hsame⟩ := h.keeping.append hr
  exact ⟨hkeeping.holding h.shelf.older, hsame⟩

/-- **After a flush** the file holds everything. -/
theorem flush (h : Holding σ f d as content) (hr : f.flush d = (.ok (), f', d')) :
    Holding σ f' d' as content ∧ d'.read σ.path = .ok content ∧ f'.size = f.size ∧
      f'.policy = f.policy ∧ f'.period = f.period := by
  obtain ⟨w, written, hw, hact, rfl, hne⟩ := h.writer
  obtain ⟨happ, rfl⟩ := RollingFile.flush_ok hw hr
  have hshelf := h.shelf.appended happ hne
  have hact' := hact.appended happ
  exact ⟨⟨⟨h.site.path, h.site.dir, h.site.name⟩, h.notClosed, hshelf,
    ⟨_, _, rfl, hact', (List.append_nil _).symm, hne⟩⟩, hact'.read hshelf.below, rfl, rfl, rfl⟩

/-- Letting go of the writer leaves everything in the file. -/
theorem settle (h : Holding σ f d as content) (hr : f.settle d = (.ok (), f₁, d₁)) :
    ∃ i, Shelf σ d₁ as ∧ Active σ d₁ i content ∧ ∀ a ∈ as, a.file ≠ i := by
  obtain ⟨i, hstock, hact, hne⟩ := h.keeping.settle hr
  exact ⟨i, hstock.shelf h.shelf.older, hact, hne⟩

/-- What a file holds that was just taken up, with nothing in the buffer. -/
theorem takenUp {i : NodeId} (period : String) (hsite : f.At σ) (hopen : f.closed = false) (hshelf : Shelf σ d as)
    (hact : Active σ d i content) (hne : ∀ a ∈ as, a.file ≠ i) :
    Holding σ { f with writer := some { file := i }, size := 0, period } d as content :=
  ⟨⟨hsite.path, hsite.dir, hsite.name⟩, hopen, hshelf,
    ⟨{ file := i }, content, rfl, hact, (List.append_nil _).symm, hne⟩⟩

/-- **A new file is begun** for a period that no archive is ahead of, and the new archive is the newest. -/
theorem renew {m : Nat} (h : Holding σ f d as content) (hm : m < UInt64.size)
    (hperiod : ∃ t, f.period = f.policy.rotation.period t)
    (hle : f.size ≠ 0 → ∀ a ∈ as, a.key.period ≤ f.period)
    (hindex : ∀ a ∈ as, a.key.index.toNat < m) (hr : f.renew next d = (.ok (), f', d')) :
    ∃ (new : List Kept) (rest : Bytes), Holding σ f' d' (as ++ new) rest ∧ f'.size = 0 ∧
      f'.policy = f.policy ∧ f'.period = next ∧ f.archiveMade d = new.map (fun a => a.item σ) ∧
      (f.size = 0 ∧ new = [] ∧ rest = content ∨ rest = [] ∧ new.map (·.content) = [content]) ∧
      ∀ a ∈ new, a.key.period = f.period ∧ a.key.index.toNat ≤ m := by
  obtain ⟨new, rest, i, rfl, hstock, hact, hne, hmade, hmoved, hnew⟩ := h.keeping.renew hm hperiod hindex hr
  have holder : (as ++ new).Pairwise (fun a b => a.key.Older b.key) := by
    rcases hmoved with ⟨-, rfl, -⟩ | ⟨hsize, -, hone⟩
    · rw [List.append_nil]
      exact h.shelf.older
    · obtain ⟨a, rfl, -⟩ := List.map_eq_singleton_iff.1 hone
      exact List.pairwise_append.2 ⟨h.shelf.older, List.pairwise_singleton _ _,
        fun b hb c hc => (hnew c hc).2.2 b hb (hle hsize b hb)⟩
  exact ⟨new, rest, takenUp next h.site h.notClosed (hstock.shelf holder) hact hne, rfl, rfl, rfl, hmade,
    hmoved.imp_right And.right, fun a ha => ⟨(hnew a ha).1, (hnew a ha).2.1⟩⟩

/-- **A roll**: the old file goes to the archives, and of these the newest are kept. -/
theorem roll {m : Nat} (h : Holding σ f d as content) (hm : m < UInt64.size)
    (hperiod : ∃ t, f.period = f.policy.rotation.period t)
    (hle : f.size ≠ 0 → ∀ a ∈ as, a.key.period ≤ f.period)
    (hindex : ∀ a ∈ as, a.key.index.toNat < m) (hr : f.roll next d = (.ok (), f', d')) :
    ∃ (new : List Kept) (rest : Bytes) (gone : Nat), gone = (as ++ new).length - f.policy.maxHistory ∧
      Holding σ f' d' ((as ++ new).drop gone) rest ∧ f'.size = 0 ∧ f'.policy = f.policy ∧
      f'.period = next ∧ f.archiveMade d = new.map (fun a => a.item σ) ∧
      f.archivesRemoved next d = ((as ++ new).take gone).map (fun a => a.item σ) ∧
      (f.size = 0 ∧ new = [] ∧ rest = content ∨ rest = [] ∧ new.map (·.content) = [content]) ∧
      ∀ a ∈ new, a.key.period = f.period ∧ a.key.index.toNat ≤ m := by
  unfold RollingFile.roll at hr
  split at hr
  · cases hr
  rename_i f₁ d₁ hrenew
  obtain ⟨new, rest, hold, hsize, hpolicy, hnext, hmade, hcontent, hnew⟩ :=
    h.renew hm hperiod hle hindex hrenew
  rcases hprune : f₁.prune d₁ with ⟨r, d₂⟩
  rw [hprune] at hr
  cases hr
  obtain ⟨hshelf, hact⟩ := hold.shelf.prune hold.site hprune
  rw [hpolicy] at hshelf
  refine ⟨new, rest, _, rfl, ?_, hsize, hpolicy, hnext, hmade, ?_, hcontent, hnew⟩
  · obtain ⟨w, written, hw, hwact, hwritten, hne⟩ := hold.writer
    exact ⟨hold.site, hold.notClosed, hshelf, ⟨w, written, hw, hact _ _ hwact, hwritten,
      fun a ha => hne a (List.mem_of_mem_drop ha)⟩⟩
  · rw [hold.shelf.stock.archivesRemoved hold.site (List.Perm.refl _) hold.shelf.older hrenew, hpolicy]

end Holding

namespace Stand

variable {σ : LogSite} {f f' f₁ : RollingFile} {d d' d₁ : Disk} {as : List Kept} {content record : Bytes}
  {next : String}

/-- **After a flush** the file holds everything. -/
theorem flush (h : Stand σ f d as content) (hr : f.flush d = (.ok (), f', d')) :
    Stand σ f' d' as content ∧ d'.read σ.path = .ok content ∧ f'.policy = f.policy ∧
      f'.period = f.period := by
  obtain ⟨hold, hread, hsize, hpolicy, hperiod⟩ := h.holding.flush hr
  exact ⟨hold.stand (hsize.trans h.size), hread, hpolicy, hperiod⟩

/-- **Opened anew**, the file goes on where it was. -/
theorem reopen {immediateFlush : Bool} {now modified : Instant} (h : Stand σ f d as content)
    (hc : f.close d = (.ok (), f₁, d₁))
    (ho : RollingFile.openAt f.path f.policy immediateFlush now modified d₁ = (.ok f', d')) :
    Stand σ f' d' as content ∧ f'.policy = f.policy ∧
      f'.period = f.policy.rotation.period (if 0 < content.length then modified else now) := by
  unfold RollingFile.close at hc
  rcases hs : f.settle d with ⟨r, f₂, d₂⟩
  rw [hs] at hc
  cases hc
  obtain ⟨i, hshelf, hact, hne⟩ := h.holding.settle hs
  obtain ⟨names, hlist, -⟩ := hshelf.list_eq
  rw [h.site.path] at ho
  obtain ⟨rfl, hsite, hopen, hw, hsize, hpolicy, -, hperiod⟩ := hact.openAt hshelf.below hlist ho
  exact ⟨⟨hsite, hopen, hshelf, ⟨_, content, hw, hact, (List.append_nil _).symm, hne⟩, hsize⟩, hpolicy, hperiod⟩

/-- **A log file that was just opened**, in a directory without archives of its own. It holds what it
held before. -/
theorem of_open {path : String} {policy : RollingPolicy} {immediateFlush : Bool} {now modified : Instant}
    (ho : RollingFile.openAt path policy immediateFlush now modified d = (.ok f, d'))
    (hnone : f.archives d' = .ok []) (hread : d'.read path = .ok content) :
    ∃ σ : LogSite, σ.path = path ∧ Stand σ f d' [] content ∧ f.policy = policy ∧
      f.period = policy.rotation.period (if 0 < content.length then modified else now) ∧
      ∀ old, d.read path = .ok old → old = content := by
  obtain ⟨names, hlist, hkeys⟩ := RollingFile.key?_of_archives_nil hnone
  obtain ⟨d₁, x, i, -, hopen, hends, rfl⟩ := RollingFile.openAt_ok ho
  obtain ⟨D, j, room, hD, hdir, hj, hl, hfile⟩ := Disk.entryAt_of_openAppend hends hopen hread
  -- the names that were listed are those in the directory that the path leads to
  obtain ⟨hdirText, D', es, hD', hes, rfl⟩ := Disk.list_ok_iff.1 hlist
  obtain rfl : D' = D := Disk.walk_unique hD' (Disk.walk_dirOf hends hdir hD).2
  have hfound : FoundLog d' path x D' es i content :=
    ⟨hends, (Disk.read_ok_iff.1 hread).1, hdirText, hD, Disk.entries?_eq_some.1 hes,
      fun e he => hkeys e.1 (List.mem_map.2 ⟨e, he, rfl⟩), ⟨j, hj, hl⟩, ⟨room, hfile⟩⟩
  have hlength := hfound.active.length_eq
  refine ⟨hfound.site, rfl, ⟨⟨rfl, rfl, rfl⟩, rfl, hfound.shelf, ⟨{ file := i }, content, rfl,
    hfound.active, (List.append_nil _).symm, by simp⟩, hlength⟩, rfl, ?_, ?_⟩
  · simp only [hlength]
  · intro old hold
    obtain rfl := RollingFile.openAt_of_read ho hdirText hold
    exact Except.ok.inj (hold.symm.trans hread)

end Stand

end ModuleHost
