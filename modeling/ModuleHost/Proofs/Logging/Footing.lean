import Mathlib
import ModuleHost.Proofs.Logging.Directory

/-!
# What a log file rests on, whatever fails

The directory, the active file and the archives that were made, through calls of which any may fail. No order of
the archives is asked for, nothing is known of other entries with archives' names, and the size that the file
believes to have is left aside.

* `Footing`: the active file is where its path leads, it is the one that is written to, and the archives can be
  read.
* `Footing.appended`, `Footing.begin`, `Footing.prune`, `Footing.refit`: one lemma for each change.
* `LogWriter.put_any`, `RollingFile.appendRecord_cases`, `Footing.renew_cases`: **what each part of a record comes
  to**, where it succeeds and where it fails.
-/

namespace ModuleHost

open Disk (Appended Below Rooted nameLimit lookup)

/-- The bytes in the buffer. -/
def RollingFile.buffered (f : RollingFile) : Bytes :=
  match f.writer with
  | some w => w.buffer
  | none => []

/-- **What a log file rests on**: its directory, the active file with number `i`, which holds `written`, and the
archives that were made. Archives have numbers below `n`. -/
structure Footing (σ : LogSite) (f : RollingFile) (d : Disk) (as : List Kept) (i : NodeId) (written : Bytes)
    (n : Nat) : Prop where
  site : f.At σ
  opened : f.Opened σ.name
  notClosed : f.closed = false
  below : Below σ.base d
  proper : d.Proper
  numbered : σ.Numbered n d
  active : Active σ d i written
  writer : ∀ w ∈ f.writer, w.file = i
  archives : ∀ a ∈ as, a.On σ d ∧ d.entryAt σ.dir (σ.log.archive a.key) = .ok a.entry ∧ a.file ≠ i
  keys : (as.map (·.key)).Nodup

variable {σ : LogSite} {f f' f₁ : RollingFile} {d d' d₁ : Disk} {as : List Kept} {i j : NodeId}
  {written bytes record : Bytes} {n m : Nat} {next : String} {w w' : LogWriter}

/-! ### The writer -/

namespace LogWriter

/-- **Bytes that are offered to a writer** are taken whole, or refused whole: then the file and the buffer hold
what they held. -/
theorem put_any {r : Except SystemError Unit} (h : w.put bytes d = (r, w', d')) :
    w'.file = w.file ∧ ∃ out, Appended d w.file out d' ∧
      ((∃ e, r = .error e) ∧ w.buffer = out ++ w'.buffer ∨ r = .ok () ∧ w.buffer ++ bytes = out ++ w'.buffer) := by
  cases r with
  | ok _ =>
    obtain ⟨hfile, out, happ, hbytes⟩ := put_ok h
    exact ⟨hfile, out, happ, Or.inr ⟨rfl, hbytes⟩⟩
  | error e =>
    have hafter : ∀ {w₁ : LogWriter} {d₁ : Disk}, w₁.putAfterFlush bytes d₁ = (.error e, w', d') →
        w' = w₁ ∧ d' = d₁ := by
      intro w₁ d₁ hput
      unfold putAfterFlush at hput
      split at hput
      · split at hput
        · cases hput
        · cases hput
          exact ⟨rfl, rfl⟩
      · cases hput
    unfold put at h
    simp only at h
    split at h
    · cases h
    split at h
    · split at h
      · -- the buffer went to the file, and the bytes did not
        rename_i w₁ d₁ hflush
        obtain ⟨happ, rfl⟩ := flush_ok hflush
        obtain ⟨rfl, rfl⟩ := hafter h
        exact ⟨rfl, w.buffer, happ, Or.inl ⟨⟨e, rfl⟩, (List.append_nil _).symm⟩⟩
      · rename_i hflush
        cases h
        obtain ⟨rfl, rfl, -⟩ := flush_error hflush
        exact ⟨rfl, [], Appended.refl _ _, Or.inl ⟨⟨e, rfl⟩, rfl⟩⟩
    · obtain ⟨rfl, rfl⟩ := hafter h
      exact ⟨rfl, [], Appended.refl _ _, Or.inl ⟨⟨e, rfl⟩, rfl⟩⟩

end LogWriter

/-! ### Each change -/

namespace Footing

/-- What the file knows of itself may change. -/
theorem congr (h : Footing σ f d as i written n) (hs : RollingFile.SameLog f f')
    (hperiod : ∃ t, f'.period = f.policy.rotation.period t) (hw : ∀ w ∈ f'.writer, w.file = i) :
    Footing σ f' d as i written n :=
  { h with
    site := ⟨hs.path.trans h.site.path, hs.dir.trans h.site.dir, hs.name.trans h.site.name⟩
    opened := h.opened.congr hs hperiod
    notClosed := hs.closed.trans h.notClosed
    writer := hw }

/-- The active file grows. -/
theorem appended (h : Footing σ f d as i written n) (happ : Appended d i bytes d') :
    Footing σ f d' as i (written ++ bytes) n := by
  obtain ⟨above, es, hD⟩ := LogSite.isDir_above h.below
  constructor
  case site => exact h.site
  case opened => exact h.opened
  case notClosed => exact h.notClosed
  case below => exact h.below.trans happ.below
  case proper =>
    have hspares : Disk.Spares (fun _ => False) d d' := Disk.spares_appended happ
    exact hspares.proper h.proper
  case numbered =>
    refine ⟨h.numbered.word, fun above' es' hD' => ?_⟩
    rw [happ.dir hD] at hD'
    cases hD'
    exact h.numbered.numbers above es hD
  case active => exact h.active.appended happ
  case writer => exact h.writer
  case archives =>
    intro a ha
    obtain ⟨⟨hfits, hleads, room, hroom⟩, hentry, hne⟩ := h.archives a ha
    refine ⟨⟨hfits, hleads, room, ?_⟩, ?_, hne⟩
    · rw [happ.others _ hne]
      exact hroom
    · rw [LogSite.entryAt_appended h.below happ]
      exact hentry
  case keys => exact h.keys

/-- **There is a next archive**, and its name is free. -/
theorem nextArchive {above : NodeId} {es : List (String × NodeId)} (h : Footing σ f d as i written n)
    (hD : d.node? σ.dir = some (.dir above es)) :
    ∃ index, f.nextArchive d = .ok (σ.pathOf ⟨f.period, index⟩) ∧ index.toNat ≤ n ∧
      ∀ e ∈ es, e.1 ≠ σ.log.archive ⟨f.period, index⟩ := by
  obtain ⟨hnonempty, -⟩ := σ.archive_of_clock ⟨f.period, 0⟩ h.opened.period
  obtain ⟨index, hnext, hle, hfree⟩ := LogSite.free_of_numbered h.numbered hD f.period hnonempty
  exact ⟨index, RollingFile.nextArchive_eq h.site h.below hD hnext, hle, hfree⟩

/-- **A new file is begun**: what the old one held is in a new archive, whose name was free. -/
theorem begin {target : String} {d₂ : Disk} (h : Footing σ f d as i written n) (hword : n + 1 < UInt64.size)
    (hnext : ∃ t, next = f.policy.rotation.period t) (htarget : f.nextArchive d = .ok target)
    (hrename : d.rename σ.path target = .ok d₂) :
    ∃ k d' a, d₂.openAppend σ.path = .ok (k, d') ∧ Kept.item a σ = (target, written) ∧
      Footing σ (f.begun k next) d' (as ++ [a]) k [] (n + 1) := by
  obtain ⟨above, es, hD⟩ := LogSite.isDir_above h.below
  obtain ⟨index, htarget', hle, hfree⟩ := h.nextArchive hD
  obtain rfl := Except.ok.inj (htarget.symm.trans htarget')
  obtain ⟨hnonempty, hname⟩ := σ.archive_of_clock ⟨f.period, index⟩ h.opened.period
  generalize hkey : (⟨f.period, index⟩ : ArchiveKey) = key at *
  have hindex : key.index.toNat ≤ n := by
    rw [← hkey]
    exact hle
  obtain ⟨hfits, k, d', es', j, hopen, -, hedit, hact, hnone, hland, hmem, hlook⟩ :=
    LogSite.setAside_create h.below hD h.active hnonempty hname hfree hrename
  -- names that the old archives have are neither of the two that change
  have hold : ∀ a ∈ as, σ.log.archive a.key ≠ σ.log.archive key := by
    intro a ha heq
    obtain ⟨hon, hentry, -⟩ := h.archives a ha
    obtain ⟨-, hmem⟩ := (Disk.entryAt_eq_ok_iff hD hon.fits.dots).1 hentry
    exact hfree _ (Disk.mem_of_lookup hmem) heq
  refine ⟨k, d', ⟨key, j, i, written⟩, hopen, rfl, ?_⟩
  constructor
  case site => exact h.site.begun k next
  case opened => exact h.opened.congr ⟨rfl, rfl, rfl, rfl, rfl, rfl⟩ hnext
  case notClosed => exact h.notClosed
  case below => exact hedit.below h.below
  case proper =>
    have hsource : (Path.steps σ.path).getLast? = some σ.name := σ.ends.steps
    have hspares : Disk.Spares (fun _ => True) d d₂ := Disk.spares_rename hsource trivial
      (by rw [LogSite.pathOf, Path.steps_join hfits.isName, List.getLast?_concat]) trivial hrename
    exact (hspares.trans (Disk.spares_openAppend hopen)).proper h.proper
  case numbered =>
    refine ⟨hword, fun above' es'' hD' e he k' hk' => ?_⟩
    rw [hedit.after] at hD'
    cases hD'
    rcases hmem e he with he | heq | heq
    · have := h.numbered.numbers above es hD e he k' hk'
      omega
    · rw [heq, hfits.key?] at hk'
      cases hk'
      omega
    · rw [heq, σ.key?_name] at hk'
      cases hk'
  case active => exact hact
  case writer =>
    intro w hw
    rw [← Option.some.inj hw]
  case archives =>
    intro a ha
    rcases List.mem_append.1 ha with ha | ha
    · obtain ⟨hon, hentry, hne⟩ := h.archives a ha
      obtain ⟨hsize, hmem⟩ := (Disk.entryAt_eq_ok_iff hD hon.fits.dots).1 hentry
      refine ⟨hedit.on hon, (Disk.entryAt_eq_ok_iff hedit.after hon.fits.dots).2 ⟨hsize, ?_⟩, hon.ne_of_none hnone⟩
      rw [hlook, if_neg hon.fits.ne_name, if_neg (hold a ha)]
      exact hmem
    · rw [List.mem_singleton.1 ha]
      obtain ⟨room, hroom⟩ := h.active.holds
      have hon : Kept.On ⟨key, j, i, written⟩ σ d := ⟨hfits, hland, room, hroom⟩
      refine ⟨hedit.on hon, (Disk.entryAt_eq_ok_iff hedit.after hfits.dots).2 ⟨hfits.size, ?_⟩,
        hon.ne_of_none hnone⟩
      rw [hlook, if_neg hfits.ne_name, if_pos rfl]
  case keys =>
    rw [List.map_append]
    refine List.nodup_append.2 ⟨h.keys, List.nodup_singleton _, fun k hk k' hk' heq => ?_⟩
    obtain ⟨a, ha, rfl⟩ := List.mem_map.1 hk
    rw [List.map_singleton, List.mem_singleton] at hk'
    exact hold a ha (by rw [heq, hk'])

/-- **Old archives are removed**, whatever comes of it: those that were not removed are there. -/
theorem prune (h : Footing σ f d as i written n) :
    Footing σ f (f.prune d).2 (as.filter (fun a => σ.pathOf a.key ∉ f.pruned d)) i written n := by
  obtain ⟨above, es, hD⟩ := LogSite.isDir_above h.below
  obtain ⟨hedit, -⟩ := RollingFile.prune_edited h.site h.below h.proper hD
  constructor
  case site => exact h.site
  case opened => exact h.opened
  case notClosed => exact h.notClosed
  case below => exact hedit.below h.below
  case proper => exact (RollingFile.spares_prune h.proper (fun _ => h.opened.own)).proper h.proper
  case numbered =>
    refine ⟨h.numbered.word, fun above' es' hD' e he => ?_⟩
    rw [hedit.after] at hD'
    cases hD'
    exact h.numbered.numbers above es hD e (List.mem_of_mem_filter he)
  case active => exact RollingFile.active_of_prune h.site h.below h.proper h.active
  case writer => exact h.writer
  case archives =>
    intro a ha
    obtain ⟨ha, hleft⟩ := List.mem_filter.1 ha
    obtain ⟨hon, hentry, hne⟩ := h.archives a ha
    obtain ⟨hsize, hlook⟩ := (Disk.entryAt_eq_ok_iff hD hon.fits.dots).1 hentry
    refine ⟨hedit.on hon, (Disk.entryAt_eq_ok_iff hedit.after hon.fits.dots).2 ⟨hsize, ?_⟩, hne⟩
    refine (Disk.lookup_filter_name es (fun x => Path.join (RollingFile.dirOf σ.path) x ∉ f.pruned d) _).trans ?_
    exact (if_pos hleft).trans hlook
  case keys => exact h.keys.sublist (List.filter_sublist.map _)

end Footing

/-! ### A device with more room, or less -/

namespace Disk

/-- **Another device**: from now on every file takes as many bytes more as this says. -/
def refit (d : Disk) (room : NodeId → Option Nat) : Disk :=
  { d with
    nodes := d.nodes.mapIdx (fun i node =>
      match node with
      | .file content _ => .file content (room i)
      | node => node) }

variable (d : Disk) (room : NodeId → Option Nat) {above : NodeId} {es : List (String × NodeId)} {c : Bytes}
  {r : Option Nat} {t : String}

theorem node?_refit (i : NodeId) : (d.refit room).node? i =
    (d.node? i).map (fun node =>
      match node with
      | .file content _ => .file content (room i)
      | node => node) := by
  unfold node? refit
  simp only [Array.getElem?_mapIdx]

theorem dir_refit : (d.refit room).node? i = some (.dir above es) ↔ d.node? i = some (.dir above es) := by
  rw [node?_refit]
  cases d.node? i with
  | none => simp
  | some node => cases node <;> simp

theorem link_refit : (d.refit room).node? i = some (.link t) ↔ d.node? i = some (.link t) := by
  rw [node?_refit]
  cases d.node? i with
  | none => simp
  | some node => cases node <;> simp

theorem file_refit (h : d.node? i = some (.file c r)) : ∃ r', (d.refit room).node? i = some (.file c r') := by
  rw [node?_refit, h]
  exact ⟨room i, rfl⟩

theorem below_refit : Below d (d.refit room) :=
  ⟨rfl, fun hj => ⟨_, (dir_refit d room).2 hj, fun _ _ hk => hk⟩, fun _ _ => (link_refit d room).symm⟩

end Disk

/-- **Another device** changes nothing of what is there. -/
theorem Footing.refit (h : Footing σ f d as i written n) (room : NodeId → Option Nat) :
    Footing σ f (d.refit room) as i written n := by
  obtain ⟨above, es, hD⟩ := LogSite.isDir_above h.below
  have hD' := (Disk.dir_refit d room).2 hD
  constructor
  case site => exact h.site
  case opened => exact h.opened
  case notClosed => exact h.notClosed
  case below => exact h.below.trans (Disk.below_refit d room)
  case proper => exact fun D above es hD => h.proper D above es ((Disk.dir_refit d room).1 hD)
  case numbered =>
    exact ⟨h.numbered.word, fun above es hD => h.numbered.numbers above es ((Disk.dir_refit d room).1 hD)⟩
  case active =>
    obtain ⟨⟨j, hj, hl⟩, r, hr⟩ := h.active
    refine ⟨⟨j, ?_, hl⟩, Disk.file_refit d room hr⟩
    rw [Disk.entryAt_congr hD hD']
    exact hj
  case writer => exact h.writer
  case archives =>
    intro a ha
    obtain ⟨⟨hfits, hleads, r, hr⟩, hentry, hne⟩ := h.archives a ha
    refine ⟨⟨hfits, hleads, Disk.file_refit d room hr⟩, ?_, hne⟩
    rw [Disk.entryAt_congr hD hD']
    exact hentry
  case keys => exact h.keys

/-! ### What each part of a record comes to -/

namespace RollingFile

variable {r : Except SystemError Unit}

/-- **Bytes on their way**: `bytes` came to the buffer, and some of its first bytes went on to the file with
number `i`. Otherwise the log file is as it was. -/
structure Moved (f f' : RollingFile) (d d' : Disk) (i : NodeId) (bytes : Bytes) : Prop where
  same : SameLog f f'
  period : f'.period = f.period
  writer : ∀ w ∈ f'.writer, w.file = i
  bytes : ∃ out, Appended d i out d' ∧ f.buffered ++ bytes = out ++ f'.buffered

/-- **A flush** moves the buffer or leaves it. -/
theorem flush_moved (hw : ∀ w ∈ f.writer, w.file = i) (h : f.flush d = (r, f', d')) :
    Moved f f' d d' i [] ∧ f'.size = f.size := by
  unfold flush at h
  split at h
  · cases h
    exact ⟨⟨SameLog.refl f, rfl, hw, [], Appended.refl d i, by simp⟩, rfl⟩
  · rename_i w hsome
    have hfile := hw w hsome
    have hbuffered : f.buffered = w.buffer := by
      unfold buffered
      rw [hsome]
    rcases hflush : w.flush d with ⟨r₁, w₁, d₁⟩
    rw [hflush] at h
    cases h
    cases r with
    | error e =>
      obtain ⟨rfl, rfl, -⟩ := LogWriter.flush_error hflush
      refine ⟨⟨⟨rfl, rfl, rfl, rfl, rfl, rfl⟩, rfl, ?_, [], Appended.refl d' i, ?_⟩, rfl⟩
      · intro w hw'
        rw [← Option.some.inj hw']
        exact hfile
      · rw [hbuffered]
        simp [buffered]
    | ok _ =>
      obtain ⟨happ, rfl⟩ := LogWriter.flush_ok hflush
      rw [hfile] at happ
      refine ⟨⟨⟨rfl, rfl, rfl, rfl, rfl, rfl⟩, rfl, ?_, w.buffer, happ, ?_⟩, rfl⟩
      · intro w' hw'
        rw [← Option.some.inj hw']
        exact hfile
      · rw [hbuffered]
        rfl

/-- **Letting go of the writer** moves all of the buffer. -/
theorem settle_moved (hw : ∀ w ∈ f.writer, w.file = i) (h : f.settle d = (.ok (), f', d')) :
    Moved f f' d d' i [] ∧ f'.buffered = [] ∧ f' = { f with writer := none } := by
  have heq := settle_eq f d
  rw [h] at heq
  simp only at heq
  subst heq
  refine ⟨⟨⟨rfl, rfl, rfl, rfl, rfl, rfl⟩, rfl, by simp, ?_⟩, rfl, rfl⟩
  cases hsome : f.writer with
  | none =>
    unfold settle at h
    rw [hsome, Prod.mk.injEq, Prod.mk.injEq] at h
    obtain ⟨-, -, rfl⟩ := h
    exact ⟨[], Appended.refl d i, by simp [buffered, hsome]⟩
  | some w =>
    have happ := (settle_ok hsome h).1
    rw [hw w hsome] at happ
    exact ⟨w.buffer, happ, by simp [buffered, hsome]⟩

/-- **A record that is taken and then refused**: it is in the buffer already when the flush that follows fails. -/
def Halfway (f : RollingFile) (record : Bytes) (d : Disk) : Prop :=
  record ≠ [] ∧ f.immediateFlush = true ∧ ∃ w d₁ w₁ d₂ e, f.ensureWriter d = .ok (w, d₁) ∧
    w.put record d₁ = (.ok (), w₁, d₂) ∧ (w₁.flush d₂).1 = .error e

/-- **What becomes of a record** at the active file: it is taken; or it is refused, and nothing of it is left; or
it is refused half way, and all of it is left. -/
theorem appendRecord_cases (hw : ∀ w ∈ f.writer, w.file = i)
    (hopen : f.writer = none → d.openAppend f.path = .ok (i, d)) (h : f.appendRecord record d = (r, f', d')) :
    r = .ok () ∧ Moved f f' d d' i record ∧ f'.size = f.size + record.length ∧ ¬ Halfway f record d ∨
      (∃ e, r = .error e) ∧ f'.size = f.size ∧
        (Moved f f' d d' i [] ∧ ¬ Halfway f record d ∨ Moved f f' d d' i record ∧ Halfway f record d) := by
  -- whichever it is, the writer's file is the active one
  obtain ⟨w, hensure, hfile, hbuffered⟩ : ∃ w, f.ensureWriter d = .ok (w, d) ∧ w.file = i ∧
      f.buffered = w.buffer := by
    unfold ensureWriter buffered
    cases hsome : f.writer with
    | none => exact ⟨{ file := i }, by simp only [hopen hsome], rfl, rfl⟩
    | some w => exact ⟨w, rfl, hw w hsome, rfl⟩
  unfold appendRecord at h
  rw [hensure] at h
  simp only at h
  rcases hput : w.put record d with ⟨r₁, w₁, d₁⟩
  obtain ⟨hfile₁, out, happ, hbytes⟩ := LogWriter.put_any hput
  rw [hfile] at happ
  have hmoved : ∀ {w₂ : LogWriter} (size : Nat) {d₂ : Disk} {out₂ bytes : Bytes}, w₂.file = w.file →
      Appended d i out₂ d₂ → w.buffer ++ bytes = out₂ ++ w₂.buffer →
      Moved f { f with writer := some w₂, size } d d₂ i bytes := by
    intro w₂ size d₂ out₂ bytes hfile₂ happ₂ hbytes₂
    refine ⟨⟨rfl, rfl, rfl, rfl, rfl, rfl⟩, rfl, ?_, out₂, happ₂, ?_⟩
    · intro w' hw'
      rw [← Option.some.inj hw', hfile₂, hfile]
    · rw [hbuffered]
      exact hbytes₂
  cases r₁ with
  | error e =>
    rw [hput] at h
    cases h
    obtain ⟨-, hbytes⟩ | ⟨hok, -⟩ := hbytes
    · refine Or.inr ⟨⟨e, rfl⟩, rfl, Or.inl ⟨?_, ?_⟩⟩
      · exact hmoved f.size hfile₁ happ (by rw [List.append_nil]; exact hbytes)
      · rintro ⟨-, -, w', d₂, w₂, d₃, e', hensure', hput', -⟩
        rw [hensure] at hensure'
        cases hensure'
        rw [hput] at hput'
        cases hput'
    · cases hok
  | ok _ =>
    rw [hput] at h
    obtain ⟨⟨e, he⟩, -⟩ | ⟨-, hbytes⟩ := hbytes
    · cases he
    simp only at h
    split at h
    · rename_i himmediate
      rcases hflush : w₁.flush d₁ with ⟨r₂, w₂, d₂⟩
      rw [hflush] at h
      cases r₂ with
      | error e =>
        cases h
        obtain ⟨rfl, rfl, -⟩ := LogWriter.flush_error hflush
        have hall := hmoved f.size hfile₁ happ hbytes
        refine Or.inr ⟨⟨e, rfl⟩, rfl, ?_⟩
        by_cases hne : record = []
        · subst hne
          exact Or.inl ⟨hall, fun hhalf => hhalf.1 rfl⟩
        · exact Or.inr ⟨hall, hne, himmediate, w, d, w₂, d', e, hensure, hput, by rw [hflush]⟩
      | ok _ =>
        cases h
        obtain ⟨happ', rfl⟩ := LogWriter.flush_ok hflush
        rw [hfile₁, hfile] at happ'
        refine Or.inl ⟨rfl, hmoved _ hfile₁ (happ.trans happ') (by rw [hbytes]; simp), rfl, ?_⟩
        rintro ⟨-, -, w', d₂, w₂, d₃, e', hensure', hput', hflush'⟩
        rw [hensure] at hensure'
        cases hensure'
        rw [hput] at hput'
        cases hput'
        rw [hflush] at hflush'
        cases hflush'
    · rename_i himmediate
      cases h
      exact Or.inl ⟨rfl, hmoved _ hfile₁ happ hbytes, rfl, fun hhalf => himmediate hhalf.2.1⟩

end RollingFile

namespace Footing

/-- Bytes on their way stay in order, from the active file to the end of the buffer. -/
theorem moved (h : Footing σ f d as i written n) (hm : RollingFile.Moved f f' d d' i bytes) :
    ∃ written', Footing σ f' d' as i written' n ∧ written' ++ f'.buffered = written ++ f.buffered ++ bytes := by
  obtain ⟨out, happ, hbytes⟩ := hm.bytes
  refine ⟨written ++ out, (h.appended happ).congr hm.same ?_ hm.writer, ?_⟩
  · rw [hm.period]
    exact h.opened.period
  · rw [List.append_assoc, ← hbytes, List.append_assoc]

/-- The active file is opened anew without trouble. -/
theorem openAppend_eq (h : Footing σ f d as i written n) (hrooted : σ.base.Rooted) :
    d.openAppend f.path = .ok (i, d) := by
  rw [h.site.path]
  exact h.active.openAppend_eq h.below hrooted

/-- **What becomes of a new file**: the buffer is refused, and lost; or the active file holds everything, and
cannot be set aside; or it stays in use, since it was believed to be empty; or it is the newest archive. -/
theorem renew_cases {r : Except SystemError Unit} (h : Footing σ f d as i written n) (hrooted : σ.base.Rooted)
    (hword : n + 1 < UInt64.size) (hnext : ∃ t, next = f.policy.rotation.period t)
    (hr : f.renew next d = (r, f', d')) :
    (∃ e, (f.settle d).1 = .error e ∧ r = .error e ∧ f' = { f with writer := none } ∧ d' = d) ∨
      (f.settle d).1 = .ok () ∧
        ((∃ e, r = .error e) ∧ f' = { f with writer := none } ∧
            Footing σ f' d' as i (written ++ f.buffered) n ∨
          r = .ok () ∧ f.size = 0 ∧ f' = f.begun i next ∧ Footing σ f' d' as i (written ++ f.buffered) n ∧
            f.archiveMade d = [] ∨
          r = .ok () ∧ f.size ≠ 0 ∧ ∃ k a, f' = f.begun k next ∧ a.content = written ++ f.buffered ∧
            f.archiveMade d = [a.item σ] ∧ Footing σ f' d' (as ++ [a]) k [] (n + 1)) := by
  rcases hs : f.settle d with ⟨r₁, f₁, d₁⟩
  cases r₁ with
  | error e =>
    obtain ⟨rfl, rfl, -⟩ := RollingFile.settle_error hs
    unfold RollingFile.renew at hr
    rw [hs] at hr
    cases hr
    exact Or.inl ⟨e, rfl, rfl, rfl, rfl⟩
  | ok _ =>
    obtain ⟨hmoved, hempty, rfl⟩ := RollingFile.settle_moved h.writer hs
    obtain ⟨written', hfoot, hbytes⟩ := h.moved hmoved
    rw [hempty, List.append_nil, List.append_nil] at hbytes
    subst hbytes
    refine Or.inr ⟨rfl, ?_⟩
    by_cases hsize : f.size = 0
    · rw [RollingFile.renew_of_empty hs hsize (hfoot.openAppend_eq hrooted)] at hr
      cases hr
      refine Or.inr (Or.inl ⟨rfl, hsize, rfl, ?_, RollingFile.archiveMade_of_empty hs hsize⟩)
      refine hfoot.congr ⟨rfl, rfl, rfl, rfl, rfl, rfl⟩ hnext (fun w hw => ?_)
      rw [← Option.some.inj hw]
    · obtain ⟨above, es, hD⟩ := LogSite.isDir_above hfoot.below
      obtain ⟨index, htarget, -, -⟩ := hfoot.nextArchive hD
      cases hrename : d₁.rename f.path (σ.pathOf ⟨f.period, index⟩) with
      | error e =>
        rw [RollingFile.renew_of_rename_error hs hsize htarget hrename] at hr
        cases hr
        exact Or.inl ⟨⟨e, rfl⟩, rfl, hfoot⟩
      | ok d₂ =>
        have hrename' := hrename
        rw [h.site.path] at hrename'
        obtain ⟨k, d₃, a, hopen, hitem, hfoot'⟩ := hfoot.begin hword hnext htarget hrename'
        rw [← h.site.path] at hopen
        rw [RollingFile.renew_of_rename hs hsize htarget hrename hopen] at hr
        cases hr
        refine Or.inr (Or.inr ⟨rfl, hsize, k, a, rfl, (Prod.mk.inj hitem).2, ?_, hfoot'⟩)
        rw [hitem]
        refine RollingFile.archiveMade_of_read hs hsize htarget ?_
        rw [h.site.path]
        exact hfoot.active.read hfoot.below

end Footing

end ModuleHost
