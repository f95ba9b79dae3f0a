import Mathlib
import ModuleHost.Proofs.Logging.ForeignName
import ModuleHost.Proofs.Logging.Identity
import ModuleHost.Proofs.Logging.Stand
import ModuleHost.Proofs.Storage.Spared

/-!
# A log file and its neighbours

What a log file leaves alone in the directories around it, when it is opened and with each record, whatever fails
on the way. It goes by its own name and by the names that it takes for its archives', and by no other.

* `RollingFile.spares_write`: **one record leaves all other names alone.**
* `RollingFile.neighbours_spared`: **opening and any records leave alone** every name that is not taken, in
  particular the archives of every log that is not shadowed.
* `RollingFile.archives_of_neighbour_lost`: a log that shadows another lists its archives, and removes them.
-/

namespace ModuleHost

open Disk (Spares Proper)
open ModuleHost.Path (EndsIn IsName)

/-! ### The writer -/

namespace LogWriter

variable {own : String → Prop}

theorem spares_flush (w : LogWriter) (d : Disk) : Spares own d (w.flush d).2.2 := by
  unfold flush
  split
  · exact .refl own d
  · split
    · rename_i h
      exact Disk.spares_append h
    · exact .refl own d

theorem spares_putAfterFlush (w : LogWriter) (bytes : Bytes) (d : Disk) :
    Spares own d (w.putAfterFlush bytes d).2.2 := by
  unfold putAfterFlush
  split
  · split
    · rename_i h
      exact Disk.spares_append h
    · exact .refl own d
  · exact .refl own d

/-- **Bytes that are taken or refused** leave all names alone. -/
theorem spares_put (w : LogWriter) (bytes : Bytes) (d : Disk) : Spares own d (w.put bytes d).2.2 := by
  unfold put
  simp only
  split
  · exact .refl own d
  · split
    · have h : Spares own d (w.flush d).2.2 := spares_flush w d
      split
      · rename_i w₁ d₁ heq
        rw [heq] at h
        exact h.trans (spares_putAfterFlush w₁ bytes d₁)
      · rename_i heq
        rw [heq] at h
        exact h
    · exact spares_putAfterFlush w bytes d

end LogWriter

namespace RollingFile

/-- **The names that a log file goes by**: its own, and those it takes for its archives'. -/
def Own (x : String) (y : String) : Prop :=
  y = x ∨ (LogName.ofName x).Takes y

/-- **A log file that was opened** at a path that ends in a name. Its period is that of some time. -/
structure Opened (f : RollingFile) (x : String) : Prop where
  ends : EndsIn f.path x
  name : f.name = LogName.ofName x
  period : ∃ t, f.period = f.policy.rotation.period t

variable {f f' : RollingFile} {d d' : Disk} {x : String} {record : Bytes} {now : Instant} {next : String}

theorem Opened.congr (h : f.Opened x) (hs : SameLog f f') (hp : ∃ t, f'.period = f.policy.rotation.period t) :
    f'.Opened x := by
  refine ⟨?_, hs.name.trans h.name, ?_⟩
  · rw [hs.path]
    exact h.ends
  · rw [hs.policy]
    exact hp

theorem Opened.own (h : f.Opened x) {y : String} (hy : f.name.Takes y) : Own x y :=
  Or.inr (by rw [← h.name]; exact hy)

theorem Opened.text (h : f.Opened x) : f.name.text = x := by
  rw [h.name, LogName.text_ofName]

theorem Opened.period_ne_empty (h : f.Opened x) : f.period ≠ "" := by
  obtain ⟨t, ht⟩ := h.period
  rw [ht]
  exact f.policy.rotation.period_ne_empty t

theorem Opened.write (h : f.Opened x) (record : Bytes) (now : Instant) (d : Disk) :
    (f.write record now d).2.1.Opened x := by
  refine h.congr (sameLog_write f record now d) ?_
  obtain ⟨t, ht⟩ := h.period
  rcases period_write f record now d with hp | hp
  · exact ⟨t, hp.trans ht⟩
  · exact ⟨now, hp⟩

/-! ### Each part of a record -/

theorem spares_settle {own : String → Prop} (f : RollingFile) (d : Disk) : Spares own d (f.settle d).2.2 := by
  unfold settle
  split
  · exact .refl own d
  · rename_i w _
    have h : Spares own d (w.flush d).2.2 := LogWriter.spares_flush w d
    split
    · rename_i heq
      rw [heq] at h
      exact h
    · rename_i e w₁ d₁ heq
      rw [heq] at h
      exact h.trans (LogWriter.spares_flush w₁ d₁)

theorem spares_appendRecord {own : String → Prop} (f : RollingFile) (record : Bytes) (d : Disk) :
    Spares own d (f.appendRecord record d).2.2 := by
  unfold appendRecord
  split
  · exact .refl own d
  · rename_i w d₁ hw
    have hensure : Spares own d d₁ := by
      unfold ensureWriter at hw
      split at hw
      · cases hw
        exact .refl own d
      · split at hw
        · rename_i hopen
          cases hw
          exact Disk.spares_openAppend hopen
        · cases hw
    have hput := hensure.trans (LogWriter.spares_put w record d₁)
    split
    · rename_i heq
      rw [heq] at hput
      exact hput
    · rename_i w₂ d₂ heq
      rw [heq] at hput
      split
      · have hflush := hput.trans (LogWriter.spares_flush w₂ d₂)
        split
        · rename_i heq'
          rw [heq'] at hflush
          exact hflush
        · rename_i heq'
          rw [heq'] at hflush
          exact hflush
      · exact hput

/-- What a log adds to its name is a name. -/
theorem Opened.isName_archive (h : f.Opened x) (i : UInt64) : IsName (f.name.archive ⟨f.period, i⟩) := by
  obtain ⟨t, ht⟩ := h.period
  refine LogName.isName_archive ?_ ?_
  · rw [h.text]
    exact h.ends.isName.2
  · rw [ht]
    exact f.policy.rotation.slash_not_mem_period t

theorem Opened.takes_archive (h : f.Opened x) (i : UInt64) : f.name.Takes (f.name.archive ⟨f.period, i⟩) := by
  unfold LogName.Takes
  rw [LogName.key?_archive _ h.period_ne_empty]
  rfl

/-- **Setting the active file aside** goes by its name and that of an archive. -/
theorem spares_setAside (h : f.Opened x) (d : Disk) : Spares (Own x) d (f.setAside d).2 := by
  unfold setAside
  split
  · exact .refl _ d
  split
  · exact .refl _ d
  rename_i target htarget
  split
  · exact .refl _ d
  rename_i d' hrename
  obtain ⟨index, rfl⟩ := nextArchive_ok htarget
  refine Disk.spares_rename h.ends.steps (Or.inl rfl) ?_ (h.own (h.takes_archive index)) hrename
  rw [Path.steps_join (h.isName_archive index), List.getLast?_concat]

theorem spares_removeAll {own : String → Prop} {paths : List String} (d : Disk)
    (hpaths : ∀ p ∈ paths, ∃ y, (Path.steps p).getLast? = some y ∧ own y) :
    Spares own d (removeAll paths d).2 := by
  induction paths generalizing d with
  | nil => exact .refl _ d
  | cons p ps ih =>
    obtain ⟨y, hy, hown⟩ := hpaths p List.mem_cons_self
    unfold removeAll
    split
    · rename_i d₁ hremove
      exact (Disk.spares_removeFile hy hown hremove).trans
        (ih d₁ (fun q hq => hpaths q (List.mem_cons_of_mem _ hq)))
    · exact .refl _ d

/-- **Removing the oldest archives** goes by names that are taken for theirs, if the names in the directory are
names. -/
theorem spares_prune {own : String → Prop} (hp : d.Proper) (hown : ∀ y, f.name.Takes y → own y) :
    Spares own d (f.prune d).2 := by
  unfold prune
  split
  · exact .refl _ d
  rename_i excess hexcess
  refine spares_removeAll d (fun p hpe => ?_)
  obtain ⟨names, hlist, hmem⟩ := mem_excess hexcess
  obtain ⟨y, hy, htakes, rfl⟩ := hmem p hpe
  obtain ⟨-, D, es, -, hes, rfl⟩ := Disk.list_ok_iff.1 hlist
  obtain ⟨above, hnode⟩ := Disk.entries?_eq_some.1 hes
  obtain ⟨e, he, rfl⟩ := List.mem_map.1 hy
  refine ⟨e.1, ?_, hown _ htakes⟩
  rw [Path.steps_join (hp D above es hnode e he), List.getLast?_concat]

theorem spares_renew (h : f.Opened x) (next : String) (d : Disk) : Spares (Own x) d (f.renew next d).2.2 := by
  have hsettle : Spares (Own x) d (f.settle d).2.2 := spares_settle f d
  have heq := settle_eq f d
  unfold renew
  split
  · rename_i hs
    rw [hs] at hsettle
    exact hsettle
  rename_i f₁ d₁ hs
  rw [hs] at hsettle heq
  obtain rfl : f₁ = { f with writer := none } := heq
  have hset := hsettle.trans (spares_setAside (f := { f with writer := none }) ⟨h.ends, h.name, h.period⟩ d₁)
  split
  · rename_i ha
    rw [ha] at hset
    exact hset
  rename_i d₂ ha
  rw [ha] at hset
  split
  · exact hset
  · rename_i hopen
    exact hset.trans (Disk.spares_openAppend hopen)

theorem spares_roll (h : f.Opened x) (hp : d.Proper) (hnext : ∃ t, next = f.policy.rotation.period t) :
    Spares (Own x) d (f.roll next d).2.2 := by
  have hrenew := spares_renew h next d
  have hopened : (f.renew next d).2.1.Opened x := by
    refine h.congr (sameLog_renew f next d) ?_
    rcases period_renew f next d with hp | hp
    · obtain ⟨t, ht⟩ := h.period
      exact ⟨t, hp.trans ht⟩
    · obtain ⟨t, ht⟩ := hnext
      exact ⟨t, hp.trans ht⟩
  unfold roll
  split
  · rename_i heq
    rw [heq] at hrenew
    exact hrenew
  · rename_i f₁ d₁ heq
    rw [heq] at hrenew hopened
    exact hrenew.trans (spares_prune (hrenew.proper hp) (fun _ => hopened.own))

/-- **One record leaves all other names alone**, whatever becomes of it. -/
theorem spares_write (h : f.Opened x) (hp : d.Proper) (record : Bytes) (now : Instant) :
    Spares (Own x) d (f.write record now d).2.2 := by
  unfold write
  split
  · exact .refl _ d
  simp only
  split
  · have hroll := spares_roll h hp ⟨now, rfl⟩
    split
    · rename_i heq
      rw [heq] at hroll
      exact hroll
    · rename_i f₁ d₁ heq
      rw [heq] at hroll
      exact hroll.trans (spares_appendRecord f₁ record d₁)
  · exact spares_appendRecord f record d

/-! ### Any records -/

/-- **Records written one after another**, whatever becomes of each. -/
def writeEach : List (Bytes × Instant) → RollingFile → Disk → RollingFile × Disk
  | [], f, d => (f, d)
  | (record, now) :: rest, f, d => writeEach rest (f.write record now d).2.1 (f.write record now d).2.2

theorem Opened.writeEach (h : f.Opened x) (records : List (Bytes × Instant)) (d : Disk) :
    (RollingFile.writeEach records f d).1.Opened x := by
  induction records generalizing f d with
  | nil => exact h
  | cons r rest ih => exact ih (h.write r.1 r.2 d) _

theorem spares_writeEach (h : f.Opened x) (hp : d.Proper) (records : List (Bytes × Instant)) :
    Spares (Own x) d (writeEach records f d).2 ∧ SameLog f (writeEach records f d).1 := by
  induction records generalizing f d with
  | nil => exact ⟨.refl _ d, SameLog.refl f⟩
  | cons r rest ih =>
    obtain ⟨record, now⟩ := r
    have hw := spares_write h hp record now
    obtain ⟨hs, hlog⟩ := ih (h.write record now d) (hw.proper hp)
    exact ⟨hw.trans hs, (sameLog_write f record now d).trans hlog⟩

theorem opened_of_openAt {path : String} {policy : RollingPolicy} {immediateFlush : Bool}
    {now modified : Instant} (h : openAt path policy immediateFlush now modified d = (.ok f, d')) :
    ∃ x, f.Opened x ∧ f.path = path ∧ f.dir = dirOf path ∧ Spares (Own x) d d' := by
  obtain ⟨d₁, x, i, hdirs, hopen, hends, rfl⟩ := openAt_ok h
  refine ⟨x, ⟨hends, rfl, _, rfl⟩, rfl, rfl, ?_⟩
  have hs : Spares (Own x) d (Disk.createDirs (dirOf path) d).2 := Disk.spares_createDirs (dirOf path) d
  rw [hdirs] at hs
  exact hs.trans (Disk.spares_openAppend hopen)

/-- A name is known by the path that it has in a directory. -/
theorem join_injective {dir y z : String} (h : Path.join dir y = Path.join dir z) : y = z := by
  unfold Path.join at h
  split at h
  · exact h
  · apply String.toList_injective
    split at h <;> simpa using congrArg String.toList h

/-- **Neighbours are spared.** A log file is opened at a path that ends in the name `x`, on a disk whose names are
names, and any records are written to it, under whatever policy and with whatever success. Then every name in
every directory stands for what it stood for, and every file still begins with what it held, but for the name `x`
and the names that the log takes for its archives'. Only names that are taken are listed as archives. A name is
taken if it is made of the stem, a dot, some text, a dot, a number and the extension; so the archives of another
log file, of whatever period and number, are taken if that log is shadowed, and are spared if it is not. -/
theorem neighbours_spared {path : String} {policy : RollingPolicy} {immediateFlush : Bool}
    {now modified : Instant} {d₀ : Disk} (hproper : d₀.Proper)
    (hopen : openAt path policy immediateFlush now modified d₀ = (.ok f, d)) :
    ∃ x, EndsIn path x ∧
      (∀ records, Spares (fun y => y = x ∨ (LogName.ofName x).Takes y) d₀ (writeEach records f d).2 ∧
        ∀ paths, (writeEach records f d).1.archives (writeEach records f d).2 = .ok paths →
          ∃ names, (writeEach records f d).2.list (dirOf path) = .ok names ∧
            ∀ y, Path.join (dirOf path) y ∈ paths ↔ y ∈ names ∧ (LogName.ofName x).Takes y) ∧
      (∀ y, (LogName.ofName x).Takes y ↔ ∃ middle digits, middle ≠ [] ∧
        (LogName.index? digits).isSome = true ∧
        y.toList = (LogName.ofName x).stem.toList ++
          '.' :: (middle ++ '.' :: (digits ++ (LogName.ofName x).ending))) ∧
      ∀ x', x' ≠ "" → ∀ (r : Rotation) t i,
        (LogName.ofName x).Takes ((LogName.ofName x').archive ⟨r.period t, i⟩) ↔
          (LogName.ofName x).Shadows (LogName.ofName x') := by
  obtain ⟨x, hx, rfl, hdir, hs⟩ := opened_of_openAt hopen
  refine ⟨x, hx.ends, fun records => ?_, fun y => LogName.takes_iff, fun x' hx' r t i => ?_⟩
  · obtain ⟨hafter, hlog⟩ := spares_writeEach hx (hs.proper hproper) records
    refine ⟨hs.trans hafter, fun paths hpaths => ?_⟩
    obtain ⟨names, hlist, hmem⟩ := mem_archives_iff hpaths
    rw [hlog.dir, hdir] at hlist hmem
    rw [hlog.name, hx.name] at hmem
    refine ⟨names, hlist, fun y => ?_⟩
    rw [hmem]
    constructor
    · rintro ⟨z, hz, htakes, hyz⟩
      rw [join_injective hyz]
      exact ⟨hz, htakes⟩
    · rintro ⟨hy, htakes⟩
      exact ⟨y, hy, htakes, rfl⟩
  · exact LogName.takes_archive_iff hx' (r.not_mem_period t rfl (by decide) (by decide)) (r.dash_mem_period t)

/-- A log file in an empty directory, with one record and another on the next day. -/
theorem neighbours_spared_fresh :
    let t₀ : Instant := ⟨1792231200, 0, 0⟩
    let t₁ : Instant := ⟨1792317600, 0, 0⟩
    ∃ f d, Disk.empty.Proper ∧
      openAt "logs/host.log" ⟨64, 1, .daily⟩ true t₀ t₀ Disk.empty = (.ok f, d) ∧
      ∃ x, EndsIn "logs/host.log" x ∧
        Spares (fun y => y = x ∨ (LogName.ofName x).Takes y) Disk.empty
          (writeEach [([1, 1, 1], t₀), ([2, 2, 2], t₁)] f d).2 := by
  intro t₀ t₁
  let o := openAt "logs/host.log" ⟨64, 1, .daily⟩ true t₀ t₀ Disk.empty
  have hall : o.1.toOption.isSome = true := by decide +kernel
  obtain ⟨f, hf⟩ := Option.isSome_iff_exists.1 hall
  have hopen : o = (.ok f, o.2) := Prod.ext (Track.ok_of_toOption hf) rfl
  obtain ⟨x, hx, hspares, -⟩ := neighbours_spared Disk.proper_empty hopen
  exact ⟨f, o.2, Disk.proper_empty, hopen, x, hx, (hspares _).1⟩

/-- **A neighbour's archives are lost** to a log that shadows it. `host.err.log` has an archive; `host.log`, which
keeps none, lists it as one of its own and removes it with its first record on the next day. -/
theorem archives_of_neighbour_lost :
    let t₀ : Instant := ⟨1792231200, 0, 0⟩
    let t₁ : Instant := ⟨1792317600, 0, 0⟩
    let record : Bytes := [1, 1, 1]
    ∃ e d₁ f d₂, openAt "host.err.log" ⟨4, 7, .daily⟩ true t₀ t₀ Disk.empty = (.ok e, d₁) ∧
      openAt "host.log" ⟨4, 0, .daily⟩ true t₀ t₀ (writeEach [(record, t₀), (record, t₀)] e d₁).2 = (.ok f, d₂) ∧
      f.archives d₂ = .ok ["./host.err.2026-10-17.0.log"] ∧
      d₂.read "host.err.2026-10-17.0.log" = .ok record ∧
      (writeEach [(record, t₁)] f d₂).2.read "host.err.2026-10-17.0.log" = .error .notFound := by
  intro t₀ t₁ record
  let o₁ := openAt "host.err.log" ⟨4, 7, .daily⟩ true t₀ t₀ Disk.empty
  have hall : o₁.1.toOption.any (fun e =>
      let o₂ := openAt "host.log" ⟨4, 0, .daily⟩ true t₀ t₀ (writeEach [(record, t₀), (record, t₀)] e o₁.2).2
      o₂.1.toOption.any (fun f =>
        f.archives o₂.2 = .ok ["./host.err.2026-10-17.0.log"] ∧
          o₂.2.read "host.err.2026-10-17.0.log" = .ok record ∧
          (writeEach [(record, t₁)] f o₂.2).2.read "host.err.2026-10-17.0.log" = .error .notFound)) = true := by
    decide +kernel
  obtain ⟨e, he, hall⟩ := (Option.any_eq_true _ _).1 hall
  obtain ⟨f, hf, hall⟩ := (Option.any_eq_true _ _).1 hall
  exact ⟨e, _, f, _, Prod.ext (Track.ok_of_toOption he) rfl, Prod.ext (Track.ok_of_toOption hf) rfl,
    of_decide_eq_true hall⟩

end RollingFile

end ModuleHost
