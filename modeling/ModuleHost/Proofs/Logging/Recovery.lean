import Mathlib
import ModuleHost.Proofs.Logging.Directory

/-!
# Taking up again after trouble

What a log file does with a record once its directory works again, whatever failed before: a roll that stopped
half way, a device that was full, a file or a directory that others took away.

* `RollingFile.Reached`: a log file after any calls, on whatever disks.
* `RollingFile.Workable`: a disk on which it can work from now on.
* `RollingFile.landed_iff`: **the next record lands exactly if it meets none of three obstacles**.
* `RollingFile.refused_for_ever`: a file that was lost is not made anew by records that roll over.
-/

namespace ModuleHost

open Disk (Appended Below KeepsRoom Rooted Roomy linkLimit nameLimit)

variable {σ : LogSite} {d d' : Disk} {i j k : NodeId} {content bytes record : Bytes} {n : Nat} {now : Instant}
  {next : String}

/-! ### A writer whose file takes everything -/

namespace LogWriter

variable {w : LogWriter}

theorem flush_of_roomy (h : d.Roomy w.file) :
    ∃ d', w.flush d = (.ok (), { w with buffer := [] }, d') ∧ KeepsRoom d d' := by
  unfold flush
  split
  · rename_i hempty
    have hnil : w.buffer = [] := by simpa using hempty
    exact ⟨d, by rw [← hnil], KeepsRoom.refl d⟩
  · obtain ⟨d', happ, hkeep⟩ := Disk.append_of_roomy h w.buffer
    exact ⟨d', by rw [happ], hkeep⟩

theorem putAfterFlush_of_roomy (h : d.Roomy w.file) (bytes : Bytes) :
    ∃ w' d', w.putAfterFlush bytes d = (.ok (), w', d') ∧ w'.file = w.file ∧ KeepsRoom d d' := by
  unfold putAfterFlush
  split
  · obtain ⟨d', happ, hkeep⟩ := Disk.append_of_roomy h bytes
    exact ⟨w, d', by rw [happ], rfl, hkeep⟩
  · exact ⟨_, d, rfl, rfl, KeepsRoom.refl d⟩

theorem put_of_roomy (h : d.Roomy w.file) (bytes : Bytes) :
    ∃ w' d', w.put bytes d = (.ok (), w', d') ∧ w'.file = w.file ∧ KeepsRoom d d' := by
  unfold put
  simp only
  split
  · exact ⟨_, d, rfl, rfl, KeepsRoom.refl d⟩
  · split
    · obtain ⟨d₁, hflush, hkeep⟩ := flush_of_roomy h
      obtain ⟨w', d', hput, hfile, hkeep'⟩ :=
        putAfterFlush_of_roomy (w := { w with buffer := [] }) (hkeep _ h) bytes
      exact ⟨w', d', by rw [hflush]; exact hput, hfile, hkeep.trans hkeep'⟩
    · exact putAfterFlush_of_roomy h bytes

end LogWriter

namespace RollingFile

variable {f f' f₁ : RollingFile} {w : LogWriter}

theorem appendRecord_of_roomy (hw : f.writer = some w) (h : d.Roomy w.file) (record : Bytes) :
    ∃ f' d', f.appendRecord record d = (.ok (), f', d') := by
  obtain ⟨w₁, d₁, hput, hfile, hkeep⟩ := LogWriter.put_of_roomy h record
  unfold appendRecord ensureWriter
  simp only [hw, hput]
  split
  · obtain ⟨d₂, hflush, -⟩ := LogWriter.flush_of_roomy (w := w₁) (by rw [hfile]; exact hkeep _ h)
    rw [hflush]
    exact ⟨_, _, rfl⟩
  · exact ⟨_, _, rfl⟩

theorem settle_of_roomy (h : ∀ w ∈ f.writer, d.Roomy w.file) :
    ∃ d', f.settle d = (.ok (), { f with writer := none }, d') ∧ KeepsRoom d d' ∧
      ∃ i bytes, Appended d i bytes d' := by
  unfold settle
  cases hw : f.writer with
  | none => exact ⟨d, by simp only [← hw], KeepsRoom.refl d, 0, [], Appended.refl d 0⟩
  | some w =>
    obtain ⟨d', hflush, hkeep⟩ := LogWriter.flush_of_roomy (h w hw)
    exact ⟨d', by simp only [hflush], hkeep, w.file, w.buffer, (LogWriter.flush_ok hflush).1⟩

/-! ### Any state, and a disk that works -/

/-- **A log file after any calls**, each on whatever disk there was by then, and whatever came of it. -/
inductive Reached (path : String) : RollingFile → Prop
  | opened {policy : RollingPolicy} {immediateFlush : Bool} {now modified : Instant} {d d' : Disk}
      {f : RollingFile} (h : openAt path policy immediateFlush now modified d = (.ok f, d')) : Reached path f
  | written {f : RollingFile} (h : Reached path f) (record : Bytes) (now : Instant) (d : Disk) :
      Reached path (f.write record now d).2.1
  | flushed {f : RollingFile} (h : Reached path f) (d : Disk) : Reached path (f.flush d).2.1
  | closed {f : RollingFile} (h : Reached path f) (d : Disk) : Reached path (f.close d).2.1

/-- Whatever was called, a log file is where it was opened, and its period is that of some time. -/
theorem Reached.opened_at {path : String} (h : Reached path f) :
    ∃ x, f.Opened x ∧ f.path = path ∧ f.dir = dirOf path := by
  induction h with
  | opened h =>
    obtain ⟨x, hx, hpath, hdir, -⟩ := opened_of_openAt h
    exact ⟨x, hx, hpath, hdir⟩
  | @written f _ record now d ih =>
    obtain ⟨x, hx, hpath, hdir⟩ := ih
    have hs := sameLog_write f record now d
    exact ⟨x, hx.write record now d, hs.path.trans hpath, hs.dir.trans hdir⟩
  | @flushed f _ d ih =>
    obtain ⟨x, hx, hpath, hdir⟩ := ih
    have hs := sameLog_flush f d
    refine ⟨x, hx.congr hs ?_, hs.path.trans hpath, hs.dir.trans hdir⟩
    obtain ⟨t, ht⟩ := hx.period
    refine ⟨t, ?_⟩
    unfold flush
    split <;> exact ht
  | @closed f _ d ih =>
    obtain ⟨x, hx, hpath, hdir⟩ := ih
    rw [close_eq]
    exact ⟨x, ⟨hx.ends, hx.name, hx.period⟩, hpath, hdir⟩

theorem Reached.opened_site (h : Reached σ.path f) : f.Opened σ.name := by
  obtain ⟨x, hx, hpath, -⟩ := h.opened_at
  have hends := hx.ends
  rw [hpath] at hends
  rw [← Option.some.inj (hends.steps.symm.trans σ.ends.steps)]
  exact hx

theorem Reached.at (h : Reached σ.path f) : f.At σ := by
  obtain ⟨x, -, hpath, hdir⟩ := h.opened_at
  exact ⟨hpath, hdir, h.opened_site.name⟩

/-- **A disk on which a log file can work from now on**: its directory is there, to be listed; a file of its name
can be made there, or there is one that can be appended to; the next archive can have its name; and so can the
file be appended to that was opened before. -/
structure Workable (σ : LogSite) (f : RollingFile) (d : Disk) : Prop where
  below : Below σ.base d
  proper : d.Proper
  name : σ.name.utf8ByteSize ≤ nameLimit
  active : ∀ j, d.entryAt σ.dir σ.name = .ok j →
    ∃ i, σ.base.land linkLimit σ.dir j = .ok i ∧ d.Roomy i
  archive : ∀ names index, d.list f.dir = .ok names → f.name.nextIndex f.period names = some index →
    σ.Fits ⟨f.period, index⟩
  numbers : σ.Numbered (UInt64.size - 1) d
  writer : ∀ w ∈ f.writer, d.Roomy w.file

/-- **A record has landed**: the call returned well, and what the active file holds with the buffer in front of it
ends in the record. -/
def Landed (σ : LogSite) (record : Bytes) (o : Except SystemError Unit × RollingFile × Disk) : Prop :=
  o.1 = .ok () ∧ ∃ w written, o.2.1.writer = some w ∧ Active σ o.2.2 w.file written ∧
    record <:+ written ++ w.buffer

/-- **What a record can meet** on a disk that works. -/
inductive Obstructed (σ : LogSite) (f : RollingFile) (record : Bytes) (now : Instant) (d : Disk) : Prop
  /-- It rolls over, but the file that would be set aside is not there any more. -/
  | lost (hrolls : f.rolls record now = true) (hsize : f.size ≠ 0)
      (hgone : ∀ j, d.entryAt σ.dir σ.name ≠ .ok j)
  /-- It rolls over, and then an old archive cannot be removed. -/
  | stuck (hrolls : f.rolls record now = true) {f₁ : RollingFile} {d₁ d₂ : Disk} {e : SystemError}
      (hrenew : f.renew (f.policy.rotation.period now) d = (.ok (), f₁, d₁))
      (hprune : f₁.prune d₁ = (.error e, d₂))
  /-- It stays in the file that is open, but the name of the active file is gone or stands for another. -/
  | detached (hrolls : f.rolls record now = false) {w : LogWriter} (hw : f.writer = some w)
      (hother : ∀ j, d.entryAt σ.dir σ.name = .ok j → σ.base.land linkLimit σ.dir j ≠ .ok w.file)

variable {written : Bytes}

/-! ### What each part comes to -/

/-- **Opening the active file** on a disk that works finds it or makes it. -/
theorem openAppend_of_workable (hrooted : σ.base.Rooted) (hb : Below σ.base d)
    (hname : σ.name.utf8ByteSize ≤ nameLimit)
    (hactive : ∀ j, d.entryAt σ.dir σ.name = .ok j →
      ∃ i, σ.base.land linkLimit σ.dir j = .ok i ∧ d.Roomy i) :
    ∃ i c d', d.openAppend σ.path = .ok (i, d') ∧ Below σ.base d' ∧ Active σ d' i c ∧ d'.Roomy i := by
  by_cases hthere : ∃ j, d.entryAt σ.dir σ.name = .ok j
  · obtain ⟨j, hj⟩ := hthere
    obtain ⟨i, hl, c, hc⟩ := hactive j hj
    have hact : Active σ d i c := ⟨⟨j, hj, hl⟩, none, hc⟩
    exact ⟨i, c, d, hact.openAppend_eq hb hrooted, hb, hact, c, hc⟩
  · have hgone : ∀ k, d.entryAt σ.dir σ.name ≠ .ok k := fun k hk => hthere ⟨k, hk⟩
    obtain ⟨i, d', hopen, hroomy⟩ := LogSite.openAppend_gone hb hname hgone
    obtain ⟨above, es, hD⟩ := LogSite.isDir_above hb
    obtain ⟨hedit, hact, -⟩ := Edited.of_create hb hD hgone hopen
    exact ⟨i, [], d', hopen, hedit.below hb, hact, hroomy⟩

/-- A record lands in the active file if that is open and takes whatever it is given. -/
theorem landed_of_append (hw : f.writer = some w) (hact : Active σ d w.file written) (hroomy : d.Roomy w.file)
    (record : Bytes) : Landed σ record (f.appendRecord record d) := by
  obtain ⟨f', d', happend⟩ := appendRecord_of_roomy hw hroomy record
  obtain ⟨w', out, happ, hfile, hbytes, -, rfl⟩ := appendRecord_ok hw happend
  rw [happend]
  refine ⟨rfl, w', written ++ out, rfl, ?_, ?_⟩
  · rw [hfile]
    exact hact.appended happ
  · rw [List.append_assoc, ← hbytes, ← List.append_assoc]
    exact List.suffix_append _ _

/-- Without a writer, the file is opened first. -/
theorem appendRecord_of_none (hw : f.writer = none) (hopen : d.openAppend f.path = .ok (i, d')) :
    f.appendRecord record d = { f with writer := some { file := i } }.appendRecord record d' := by
  unfold appendRecord ensureWriter
  simp only [hw, hopen]

/-- **A new file is begun** on a disk that works, unless the old one should be set aside and is gone. -/
theorem renew_of_workable (hrooted : σ.base.Rooted) (hx : f.Opened σ.name) (hf : f.At σ) (h : Workable σ f d)
    (hthere : f.size = 0 ∨ ∃ j, d.entryAt σ.dir σ.name = .ok j) (next : String) :
    ∃ i c d', f.renew next d = (.ok (), f.begun i next, d') ∧ Below σ.base d' ∧ d'.Proper ∧ Active σ d' i c ∧
      d'.Roomy i := by
  obtain ⟨d₁, hsettle, hkeep, k, bytes, happ⟩ := settle_of_roomy h.writer
  have hb₁ := h.below.trans happ.below
  obtain ⟨above, es, hD⟩ := LogSite.isDir_above h.below
  have hD₁ := happ.dir hD
  have hproper : ∀ r f' d', f.renew next d = (r, f', d') → d'.Proper := by
    intro r f' d' hr
    have hs := (spares_renew hx next d).proper h.proper
    rw [hr] at hs
    exact hs
  by_cases hsize : f.size = 0
  · have hactive : ∀ j, d₁.entryAt σ.dir σ.name = .ok j →
        ∃ i, σ.base.land linkLimit σ.dir j = .ok i ∧ d₁.Roomy i := by
      intro j hj
      rw [LogSite.entryAt_appended h.below happ] at hj
      obtain ⟨i, hl, hroomy⟩ := h.active j hj
      exact ⟨i, hl, hkeep i hroomy⟩
    obtain ⟨i, c, d', hopen, hb', hact, hroomy⟩ := openAppend_of_workable hrooted hb₁ h.name hactive
    rw [← hf.path] at hopen
    have hrenew : f.renew next d = _ := renew_of_empty hsettle hsize hopen
    exact ⟨i, c, d', hrenew, hb', hproper _ _ _ hrenew, hact, hroomy⟩
  · -- the active file is there and moves to the next archive, whose name is free
    obtain ⟨j, hj⟩ := hthere.resolve_left hsize
    obtain ⟨i, hl, hroomy⟩ := h.active j hj
    rw [← LogSite.entryAt_appended h.below happ] at hj
    obtain ⟨c, hc⟩ := hkeep i hroomy
    have hact₁ : Active σ d₁ i c := ⟨⟨j, hj, hl⟩, none, hc⟩
    have hlist : d.list f.dir = .ok (es.map (·.1)) := by
      rw [hf.dir]
      exact Disk.list_ok_iff.2 ⟨σ.dirText, σ.dir, es, (LogSite.walk_dirOf h.below).2,
        Disk.entries?_eq_some.2 ⟨above, hD⟩, rfl⟩
    obtain ⟨index, hnumber, -, hfree⟩ := LogSite.free_of_numbered h.numbers hD f.period hx.period_ne_empty
    have hfits := h.archive _ index hlist (hf.name ▸ hnumber)
    have hnext := nextArchive_eq hf hb₁ hD₁ hnumber
    obtain ⟨d₂, hrename⟩ := LogSite.rename_free hb₁ hD₁ hfits hj hfree
    obtain ⟨-, i', d', es', j', hopen, hroomy, hedit, hact, -⟩ :=
      LogSite.setAside_create hb₁ hD₁ hact₁ hfits.period hfits.isName hfree hrename
    rw [← hf.path] at hrename hopen
    have hrenew : f.renew next d = _ := renew_of_rename hsettle hsize hnext hrename hopen
    exact ⟨i', [], d', hrenew, hedit.below hb₁, hproper _ _ _ hrenew, hact, hroomy⟩

/-! ### What becomes of a record -/

/-- **A record that rolls over** lands unless the old file is lost or an old archive cannot be removed. -/
theorem landed_of_rolls (hrooted : σ.base.Rooted) (hx : f.Opened σ.name) (hf : f.At σ) (hopen : f.closed = false)
    (h : Workable σ f d) (hrolls : f.rolls record now = true) (hclear : ¬ Obstructed σ f record now d) :
    Landed σ record (f.write record now d) := by
  have hthere : f.size = 0 ∨ ∃ j, d.entryAt σ.dir σ.name = .ok j := by
    by_contra hnot
    rw [not_or, not_exists] at hnot
    exact hclear (.lost hrolls hnot.1 hnot.2)
  obtain ⟨i, c, d₁, hrenew, hb₁, hproper₁, hact, hroomy⟩ :=
    renew_of_workable hrooted hx hf h hthere (f.policy.rotation.period now)
  have hf₁ := hf.begun i (f.policy.rotation.period now)
  have hact₂ := active_of_prune hf₁ hb₁ hproper₁ hact
  have hroomy₂ := keepsRoom_of_prune hf₁ hb₁ hproper₁ i hroomy
  rcases hprune : (f.begun i (f.policy.rotation.period now)).prune d₁ with ⟨r, d₂⟩
  rw [hprune] at hact₂ hroomy₂
  cases r with
  | error e => exact (hclear (.stuck hrolls hrenew hprune)).elim
  | ok _ =>
    rw [write_of_roll hopen hrolls (roll_of_renew hrenew hprune)]
    exact landed_of_append rfl hact₂ hroomy₂ record

/-- **A record that stays** lands unless the file that is open is another than the active one. -/
theorem landed_of_stays (hrooted : σ.base.Rooted) (hf : f.At σ) (hopen : f.closed = false) (h : Workable σ f d)
    (hrolls : f.rolls record now = false) (hclear : ¬ Obstructed σ f record now d) :
    Landed σ record (f.write record now d) := by
  rw [write_of_stays hopen hrolls]
  cases hw : f.writer with
  | none =>
    obtain ⟨i, c, d', hopen', -, hact, hroomy⟩ := openAppend_of_workable hrooted h.below h.name h.active
    rw [← hf.path] at hopen'
    rw [appendRecord_of_none hw hopen']
    exact landed_of_append rfl hact hroomy record
  | some w =>
    have hthere : ∃ j, d.entryAt σ.dir σ.name = .ok j ∧ σ.base.land linkLimit σ.dir j = .ok w.file := by
      by_contra hnot
      refine hclear (.detached hrolls hw (fun j hj hl => hnot ⟨j, hj, hl⟩))
    have hroomy := h.writer w hw
    obtain ⟨c, hc⟩ := hroomy
    exact landed_of_append hw ⟨hthere, none, hc⟩ ⟨c, hc⟩ record

/-! ### A file that was lost -/

/-- **A log file that was lost**: it should be set aside, but its name is gone from the directory. -/
structure Lost (σ : LogSite) (f : RollingFile) (d : Disk) : Prop where
  site : f.At σ
  notClosed : f.closed = false
  written : f.size ≠ 0
  below : Below σ.base d
  gone : ∀ j, d.entryAt σ.dir σ.name ≠ .ok j

/-- **No new file is begun** for a file that was lost, and it stays lost. -/
theorem Lost.renew (h : Lost σ f d) (next : String) :
    ∃ e d', f.renew next d = (.error e, { f with writer := none }, d') ∧ Lost σ { f with writer := none } d' := by
  have hstill : ∀ {i bytes d'}, Appended d i bytes d' → Lost σ { f with writer := none } d' := by
    intro i bytes d' happ
    refine ⟨⟨h.site.path, h.site.dir, h.site.name⟩, h.notClosed, h.written, h.below.trans happ.below,
      fun j hj => ?_⟩
    rw [LogSite.entryAt_appended h.below happ] at hj
    exact h.gone j hj
  obtain ⟨i, bytes, happ⟩ := settle_appended f d
  rcases hrenew : f.renew next d with ⟨r, f', d'⟩
  cases r with
  | ok _ =>
    obtain ⟨d₁, k, hs, -, ⟨hsize, -⟩ | ⟨-, target, d₂, -, hrename, -⟩⟩ := renew_ok hrenew
    · exact (h.written hsize).elim
    · rw [hs] at happ
      rw [h.site.path] at hrename
      exact (LogSite.not_rename_of_gone (hstill happ).below (hstill happ).gone hrename).elim
  | error e =>
    obtain ⟨rfl, hs | ⟨d₁, hs, ⟨-, rfl⟩ | ⟨haside, -⟩⟩⟩ := renew_error hrenew
    · rw [hs] at happ
      exact ⟨e, d', rfl, hstill happ⟩
    · rw [hs] at happ
      exact ⟨e, d', rfl, hstill happ⟩
    · -- it cannot be set aside
      rw [hs] at happ
      have hlost := hstill happ
      unfold setAside at haside
      rw [if_neg h.written] at haside
      split at haside
      · cases haside
      · split at haside
        · cases haside
        · rename_i hrename
          have hpath : f.path = σ.path := h.site.path
          simp only [hpath] at hrename
          exact (LogSite.not_rename_of_gone hlost.below hlost.gone hrename).elim

/-- A record that rolls over is refused, and the next one finds the file just as it was. -/
theorem Lost.write (h : Lost σ f d) (hrolls : f.rolls record now = true) :
    ∃ e d', f.write record now d = (.error e, { f with writer := none }, d') ∧
      Lost σ { f with writer := none } d' := by
  obtain ⟨e, d', hrenew, hlost⟩ := h.renew (f.policy.rotation.period now)
  exact ⟨e, d', write_of_roll_error h.notClosed hrolls (roll_of_renew_error hrenew), hlost⟩

/-- **A file that was lost is not made anew** by records that roll over: each of them is refused, however many
come and however well the disk works. -/
theorem refused_for_ever {records : List (Bytes × Instant)} (h : Lost σ f d)
    (hrecords : ∀ r ∈ records, f.rolls r.1 r.2 = true) (hrolls : f.rolls record now = true) :
    ∃ e, ((writeEach records f d).1.write record now (writeEach records f d).2).1 = .error e := by
  induction records generalizing f d with
  | nil =>
    obtain ⟨e, d', hwrite, -⟩ := h.write hrolls
    exact ⟨e, by simp only [writeEach, hwrite]⟩
  | cons r rest ih =>
    obtain ⟨e, d', hwrite, hlost⟩ := h.write (hrecords r List.mem_cons_self)
    simp only [writeEach, hwrite]
    -- whether a record rolls over does not depend on the writer
    exact ih hlost (fun q hq => hrecords q (List.mem_cons_of_mem _ hq)) hrolls

/-! ### The next record -/

/-- A record that has landed met no obstacle. -/
theorem not_obstructed_of_landed (hf : f.At σ) (hopen : f.closed = false) (hb : Below σ.base d)
    (h : Landed σ record (f.write record now d)) : ¬ Obstructed σ f record now d := by
  obtain ⟨hok, w', written, hw', hact, -⟩ := h
  rcases hwrite : f.write record now d with ⟨r, f', d'⟩
  rw [hwrite] at hok hw' hact
  simp only at hok hw' hact
  subst hok
  intro hobstructed
  cases hobstructed with
  | lost hrolls hsize hgone =>
    rcases write_ok hopen hwrite with ⟨hstays, -⟩ | ⟨-, f₁, d₁, hroll, -⟩
    · rw [hrolls] at hstays
      cases hstays
    · obtain ⟨e, d₂, hrenew, -⟩ := (Lost.mk hf hopen hsize hb hgone).renew (f.policy.rotation.period now)
      rw [roll_of_renew_error hrenew] at hroll
      cases hroll
  | stuck hrolls hrenew hprune =>
    rcases write_ok hopen hwrite with ⟨hstays, -⟩ | ⟨-, f₁, d₁, hroll, -⟩
    · rw [hrolls] at hstays
      cases hstays
    · rw [roll_of_renew hrenew hprune] at hroll
      cases hroll
  | detached hrolls hw hother =>
    rw [write_of_stays hopen hrolls] at hwrite
    obtain ⟨w₁, out, happ, hfile, -, -, rfl⟩ := appendRecord_ok hw hwrite
    cases hw'
    obtain ⟨⟨j, hj, hl⟩, -⟩ := hact
    rw [LogSite.entryAt_appended hb happ] at hj
    rw [hfile] at hl
    exact hother j hj hl

/-- **The next record lands exactly if it meets no obstacle.** A log file was opened and any calls were made, each
on whatever disk there was and whatever came of it, and it is not closed. Then the disk works again. The next
record is taken, and is at the end of the active file or in the buffer in front of it, unless the active file that
the record sets aside is not there any more, or an old archive cannot be removed after that, or the record stays
in a file that is not the active one any more. In each of these cases it is refused, or goes where nobody finds
it. -/
theorem landed_iff (hrooted : σ.base.Rooted) (hreached : Reached σ.path f) (hopen : f.closed = false)
    (h : Workable σ f d) (record : Bytes) (now : Instant) :
    Landed σ record (f.write record now d) ↔ ¬ Obstructed σ f record now d := by
  have hf := hreached.at
  refine ⟨not_obstructed_of_landed hf hopen h.below, fun hclear => ?_⟩
  cases hrolls : f.rolls record now with
  | false => exact landed_of_stays hrooted hf hopen h hrolls hclear
  | true => exact landed_of_rolls hrooted hreached.opened_site hf hopen h hrolls hclear

/-! ### `host.log` in the working directory -/

/-- A log file can work where its name stands for a file that takes whatever it is given, or for nothing. -/
theorem workable_hostLog {names : List (String × NodeId)} {f : RollingFile} (hf : f.At LogSite.hostLog)
    (hperiod : f.period = "2026-10-17") (hwriter : ∀ w ∈ f.writer, w.file = 4)
    (hnames : names = [] ∨ names = [("host.log", 4)]) :
    Workable LogSite.hostLog f (Disk.working names [.file content none]) := by
  have hbelow : Below LogSite.hostLog.base (Disk.working names [.file content none]) :=
    Disk.below_working (by simp)
  have hdir : (Disk.working names [.file content none]).node? LogSite.hostLog.dir = some (.dir 0 names) := rfl
  have hroomy : (Disk.working names [.file content none]).Roomy 4 := ⟨content, rfl⟩
  have hnone : ∀ e ∈ names, LogSite.hostLog.log.key? e.1 = none := by
    rcases hnames with rfl | rfl <;> decide +kernel
  constructor
  case below => exact hbelow
  case proper =>
    refine Disk.proper_working ?_ (by simp)
    rcases hnames with rfl | rfl <;> simp +decide [Path.IsName]
  case name => decide +kernel
  case active =>
    intro j hj
    obtain ⟨-, hlook⟩ := (Disk.entryAt_eq_ok_iff hdir LogSite.hostLog.ends.dots).1 hj
    rcases hnames with rfl | rfl
    · cases hlook
    · obtain rfl : 4 = j := Option.some.inj hlook
      exact ⟨4, by decide +kernel, hroomy⟩
  case archive =>
    intro names' index hlist hindex
    rw [hf.dir] at hlist
    obtain ⟨-, D, es, hD, hes, rfl⟩ := Disk.list_ok_iff.1 hlist
    obtain rfl := Disk.walk_unique hD (LogSite.walk_dirOf hbelow).2
    obtain rfl : names = es := Option.some.inj hes
    have hzero : LogSite.hostLog.log.nextIndex "2026-10-17" (names.map (·.1)) = some 0 := by
      rcases hnames with rfl | rfl <;> decide +kernel
    rw [hf.name, hperiod, hzero] at hindex
    rw [hperiod, ← Option.some.inj hindex]
    exact ⟨by decide, ⟨by decide +kernel, by decide +kernel⟩, by decide +kernel, by decide +kernel,
      by decide +kernel⟩
  case numbers =>
    refine ⟨by decide, fun above es hes e he k hk => ?_⟩
    cases hes
    rw [hnone e he] at hk
    cases hk
  case writer =>
    intro w hw
    rw [hwriter w hw]
    exact hroomy

/-- A record on a day when the device was gone, and the same record again when it is back. -/
theorem landed_iff_when_back :
    let t₀ : Instant := ⟨1792231200, 0, 0⟩
    let t₁ : Instant := ⟨1792317600, 0, 0⟩
    let record : Bytes := [1, 1, 1]
    let gone : Disk := ⟨#[], 0⟩
    let back : Disk := Disk.working [("host.log", 4)] [.file record none]
    ∃ f₀ d₀, openAt "host.log" ⟨64, 7, .daily⟩ false t₀ t₀ Disk.empty = (.ok f₀, d₀) ∧
      let f := (f₀.write record t₀ d₀).2.1
      let f' := (f.write record t₁ gone).2.1
      (f.write record t₁ gone).1 = .error .storageFull ∧ f'.closed = false ∧
        Workable LogSite.hostLog f' back ∧ f'.rolls record t₁ = true ∧
        Landed LogSite.hostLog record (f'.write record t₁ back) := by
  intro t₀ t₁ record gone back
  let o := openAt "host.log" ⟨64, 7, .daily⟩ false t₀ t₀ Disk.empty
  have hall : o.1.toOption.any (fun f₀ =>
      let f := (f₀.write record t₀ o.2).2.1
      let f' := (f.write record t₁ gone).2.1
      (f.write record t₁ gone).1 = .error .storageFull ∧ f'.closed = false ∧ f'.writer = none ∧
        f'.period = "2026-10-17" ∧ f'.rolls record t₁ = true ∧
        ((f'.renew (f'.policy.rotation.period t₁) back).2.1.prune
          (f'.renew (f'.policy.rotation.period t₁) back).2.2).1 = .ok ()) = true := by
    decide +kernel
  obtain ⟨f₀, hf₀, hall⟩ := (Option.any_eq_true _ _).1 hall
  let f' := ((f₀.write record t₀ o.2).2.1.write record t₁ gone).2.1
  obtain ⟨hfailed, hopen, hwriter, hperiod, hrolls, hpruned⟩ := of_decide_eq_true hall
  have hopened : o = (.ok f₀, o.2) := Prod.ext (Track.ok_of_toOption hf₀) rfl
  have hreached : Reached LogSite.hostLog.path f' :=
    ((Reached.opened hopened).written record t₀ o.2).written record t₁ gone
  have hworkable : Workable LogSite.hostLog f' back :=
    workable_hostLog hreached.at hperiod (by rw [hwriter]; simp) (Or.inr rfl)
  have hclear : ¬ Obstructed LogSite.hostLog f' record t₁ back := by
    rintro (⟨-, -, hgone⟩ | ⟨-, hrenew, hprune⟩ | ⟨hstays, -⟩)
    · exact hgone 4 (by decide +kernel)
    · rw [hrenew] at hpruned
      rw [hprune] at hpruned
      cases hpruned
    · rw [hrolls] at hstays
      cases hstays
  exact ⟨f₀, o.2, hopened, hfailed, hopen, hworkable, hrolls,
    (landed_iff Disk.rooted_empty hreached hopen hworkable record t₁).2 hclear⟩

/-- **A file that was deleted stops the log.** One record is written, and somebody removes the file. Files can be
made, set aside and appended to in the directory, but the first record of the next day is refused. -/
theorem not_landed_after_deletion :
    let t₀ : Instant := ⟨1792231200, 0, 0⟩
    let t₁ : Instant := ⟨1792317600, 0, 0⟩
    let record : Bytes := [1, 1, 1]
    ∃ f d₀ f' d₁ d, openAt "host.log" ⟨64, 7, .daily⟩ true t₀ t₀ Disk.empty = (.ok f, d₀) ∧
      f.write record t₀ d₀ = (.ok (), f', d₁) ∧ d₁.removeFile "host.log" = .ok d ∧ f'.closed = false ∧
      Workable LogSite.hostLog f' d ∧ (f'.write record t₁ d).1 = .error .notFound ∧
      ¬ Landed LogSite.hostLog record (f'.write record t₁ d) := by
  intro t₀ t₁ record
  let o := openAt "host.log" ⟨64, 7, .daily⟩ true t₀ t₀ Disk.empty
  have hall : o.1.toOption.any (fun f =>
      let f' := (f.write record t₀ o.2).2.1
      let d₁ := (f.write record t₀ o.2).2.2
      let d := Disk.working [] [.file record none]
      f.write record t₀ o.2 = (.ok (), f', d₁) ∧ d₁.removeFile "host.log" = .ok d ∧ f'.closed = false ∧
        f'.period = "2026-10-17" ∧ f'.writer = some ⟨4, []⟩ ∧
        (f'.write record t₁ d).1 = .error .notFound) = true := by
    decide +kernel
  obtain ⟨f, hf, hall⟩ := (Option.any_eq_true _ _).1 hall
  obtain ⟨hwrite, hremove, hopen, hperiod, hwriter, hrefused⟩ := of_decide_eq_true hall
  have hopened : o = (.ok f, o.2) := Prod.ext (Track.ok_of_toOption hf) rfl
  have hreached : Reached LogSite.hostLog.path f := .opened hopened
  have hat := (hreached.written record t₀ o.2).at
  have hworkable : Workable LogSite.hostLog (f.write record t₀ o.2).2.1 (Disk.working [] [.file record none]) :=
    workable_hostLog hat hperiod (by rw [hwriter]; simp) (Or.inl rfl)
  refine ⟨f, _, _, _, _, hopened, hwrite, hremove, hopen, hworkable, hrefused, fun hlanded => ?_⟩
  have hok := hlanded.1
  rw [hrefused] at hok
  cases hok

end RollingFile

end ModuleHost
