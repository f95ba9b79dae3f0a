import Mathlib
import ModuleHost.Proofs.Logging.Neighbours
import ModuleHost.Proofs.Logging.Shelf
import ModuleHost.Proofs.Logging.Stand
import ModuleHost.Proofs.Storage.Granted

/-!
# A log file at work in its directory

What the parts of a roll come to in the directory of a log file, whatever else is in it: archives in any order,
or entries that have an archive's name and are none.

* `Active.openAppend_eq`, `LogSite.openAppend_gone`: the active file is found, or made anew.
* `RollingFile.settle_error`, `RollingFile.renew_error`: what is left where a roll fails.
* `RollingFile.nextArchive_eq`, `LogSite.free_of_numbered`: the next archive's name is free while there are
  numbers left.
* `RollingFile.prune_edited`: **pruning goes by archives' names only**, whatever comes of it.
-/

namespace ModuleHost

open Disk (Appended Below Rooted Roomy linkLimit startOf checkText nameLimit isDots lookup)
open ModuleHost.Path (EndsIn IsName)

variable {σ : LogSite} {d d' : Disk} {above i j k : NodeId} {es : List (String × NodeId)} {content : Bytes}
  {f : RollingFile} {key : ArchiveKey} {x : String} {n : Nat}

/-! ### Paths in the directory -/

namespace LogSite

theorem isDir_above (hb : Below σ.base d) : ∃ above es, d.node? σ.dir = some (.dir above es) :=
  Disk.isDirNode_iff.1 (hb.isDirNode σ.isDir)

theorem locate_path_eq (hb : Below σ.base d) : d.locate σ.path = .ok (σ.dir, some σ.name) :=
  Disk.locate_ok_iff.2 ⟨σ.text, σ.ends.steps, walk_above hb, hb.isDirNode σ.isDir⟩

theorem locate_join_eq (hb : Below σ.base d) (hx : IsName x)
    (htext : checkText (Path.join (RollingFile.dirOf σ.path) x) = .ok ()) :
    d.locate (Path.join (RollingFile.dirOf σ.path) x) = .ok (σ.dir, some x) := by
  refine Disk.locate_ok_iff.2 ⟨htext, ?_, ?_, hb.isDirNode σ.isDir⟩
  · rw [Path.steps_join hx, List.getLast?_concat]
  · have hstart : startOf (Path.join (RollingFile.dirOf σ.path) x) d.home =
        startOf (RollingFile.dirOf σ.path) d.home := by
      unfold startOf
      rw [Path.isAbsolute_join hx]
    rw [hstart, Path.steps_join hx, List.dropLast_concat]
    exact (walk_dirOf hb).1

/-- The entry of a name that is not there. -/
theorem entryAt_of_lookup_none (hD : d.node? σ.dir = some (.dir above es)) (hdots : isDots x = false)
    (hsize : x.utf8ByteSize ≤ nameLimit) (hx : lookup es x = none) :
    d.entryAt σ.dir x = .error .notFound := by
  unfold isDots at hdots
  rw [Bool.or_eq_false_iff, beq_eq_false_iff_ne, beq_eq_false_iff_ne] at hdots
  unfold Disk.entryAt
  simp only [hD, if_neg hdots.1, if_neg hdots.2, if_neg (Nat.not_lt.2 hsize), hx]

/-- **Opening where the name is gone** makes a file that takes whatever it is given. -/
theorem openAppend_gone (hb : Below σ.base d) (hsize : σ.name.utf8ByteSize ≤ nameLimit)
    (hgone : ∀ k, d.entryAt σ.dir σ.name ≠ .ok k) :
    ∃ i d', d.openAppend σ.path = .ok (i, d') ∧ d'.Roomy i := by
  obtain ⟨above, es, hD⟩ := isDir_above hb
  have hnone : lookup es σ.name = none := by
    by_contra hsome
    obtain ⟨k, hk⟩ := Option.ne_none_iff_exists'.1 hsome
    exact hgone k ((Disk.entryAt_eq_ok_iff hD σ.ends.dots).2 ⟨hsize, hk⟩)
  have hopen : d.openAppend σ.path =
      .ok (d.nodes.size, (d.addNode (.file [] none)).2.bindName σ.dir σ.name d.nodes.size) := by
    unfold Disk.openAppend
    rw [Disk.bind_ok_iff]
    exact ⟨(), σ.text, Disk.openAppendAt_of_absent σ.ends (walk_above hb) (hb.isDirNode σ.isDir)
      (entryAt_of_lookup_none hD σ.ends.dots hsize hnone)⟩
  have hD' : (d.addNode (.file [] none)).2.node? σ.dir = some (.dir above es) := by
    rw [Disk.node?_addNode, if_neg (Disk.ne_size_of_node? hD)]
    exact hD
  refine ⟨_, _, hopen, [], ?_⟩
  rw [Disk.node?_bindName hD', if_neg (Disk.ne_size_of_node? hD).symm, Disk.node?_addNode, if_pos rfl]

end LogSite

/-- **Opening the active file** succeeds. -/
theorem Active.openAppend_eq (h : Active σ d i content) (hb : Below σ.base d) (hrooted : σ.base.Rooted) :
    d.openAppend σ.path = .ok (i, d) := by
  obtain ⟨⟨j, hj, hl⟩, room, hroom⟩ := h
  unfold Disk.openAppend
  rw [Disk.bind_ok_iff]
  exact ⟨(), σ.text, Disk.openAppendAt_of_land hb hrooted (le_refl _) σ.ends (LogSite.walk_above hb) σ.isDir hj hl
    hroom⟩

/-- A name stands for the same where the directory is the same. -/
theorem Disk.entryAt_congr {D : NodeId} (hD : d.node? D = some (.dir above es))
    (hD' : d'.node? D = some (.dir above es)) (x : String) : d'.entryAt D x = d.entryAt D x := by
  unfold Disk.entryAt
  rw [hD, hD']

/-- A file that grows keeps its names. -/
theorem LogSite.entryAt_appended {bytes : Bytes} (hb : Below σ.base d) (happ : Appended d i bytes d')
    (x : String) :
    d'.entryAt σ.dir x = d.entryAt σ.dir x := by
  obtain ⟨above, es, hD⟩ := isDir_above hb
  exact Disk.entryAt_congr hD (happ.dir hD) x

/-- The active file is one file with one content. -/
theorem Active.unique {content' : Bytes} (h : Active σ d i content) (h' : Active σ d j content') :
    i = j ∧ content = content' := by
  obtain ⟨⟨e, he, hl⟩, room, hroom⟩ := h
  obtain ⟨⟨e', he', hl'⟩, room', hroom'⟩ := h'
  rw [he] at he'
  cases he'
  rw [hl] at hl'
  cases hl'
  rw [hroom] at hroom'
  cases hroom'
  exact ⟨rfl, rfl⟩

/-! ### What is refused -/

/-- **A buffer that is refused** stays as it is, and so does the disk. -/
theorem LogWriter.flush_error {w w' : LogWriter} {e : SystemError} (h : w.flush d = (.error e, w', d')) :
    w' = w ∧ d' = d ∧ w.buffer ≠ [] := by
  unfold LogWriter.flush at h
  split at h
  · cases h
  · rename_i hempty
    split at h
    · cases h
    · cases h
      exact ⟨rfl, rfl, by simpa using hempty⟩

namespace RollingFile

/-- **A writer whose buffer is refused** is let go, and its buffer with it. -/
theorem settle_error {f' : RollingFile} {e : SystemError} (h : f.settle d = (.error e, f', d')) :
    d' = d ∧ f' = { f with writer := none } ∧ ∃ w, f.writer = some w ∧ w.buffer ≠ [] := by
  have heq := settle_eq f d
  rw [h] at heq
  unfold settle at h
  split at h
  · cases h
  · rename_i w hw
    split at h
    · cases h
    · rename_i e₁ w₁ d₁ hflush
      cases h
      obtain ⟨rfl, rfl, hne⟩ := LogWriter.flush_error hflush
      refine ⟨?_, heq, w₁, hw, hne⟩
      -- the second try is refused like the first
      unfold LogWriter.release
      rw [hflush]

/-- Letting go of the writer leaves the directories as they are, whatever comes of it. -/
theorem settle_appended (f : RollingFile) (d : Disk) : ∃ i bytes, Appended d i bytes (f.settle d).2.2 := by
  rcases hs : f.settle d with ⟨r, f', d'⟩
  cases r with
  | error e =>
    obtain ⟨rfl, -⟩ := settle_error hs
    exact ⟨0, [], Appended.refl d' 0⟩
  | ok _ =>
    cases hw : f.writer with
    | none =>
      unfold settle at hs
      rw [hw] at hs
      cases hs
      exact ⟨0, [], Appended.refl d 0⟩
    | some w => exact ⟨w.file, w.buffer, (settle_ok hw hs).1⟩

/-- **Where a new file can fail**: the buffer is refused; or the active file cannot be set aside; or it cannot be
opened. Each time the writer is gone. -/
theorem renew_error {f' : RollingFile} {next : String} {e : SystemError}
    (h : f.renew next d = (.error e, f', d')) :
    f' = { f with writer := none } ∧
      (f.settle d = (.error e, f', d') ∨
        ∃ d₁, f.settle d = (.ok (), f', d₁) ∧
          ((f'.setAside d₁).1 = .error e ∧ d' = d₁ ∨
            f'.setAside d₁ = (.ok (), d') ∧ d'.openAppend f.path = .error e)) := by
  have heq := settle_eq f d
  unfold renew at h
  split at h
  · rename_i hs
    cases h
    rw [hs] at heq
    exact ⟨heq, Or.inl hs⟩
  · rename_i f₁ d₁ hs
    rw [hs] at heq
    simp only at heq
    split at h
    · rename_i e' d₂ ha
      cases h
      refine ⟨heq, Or.inr ⟨d₁, hs, Or.inl ⟨by rw [ha], ?_⟩⟩⟩
      unfold setAside at ha
      split at ha
      · cases ha
      · split at ha
        · cases ha
          rfl
        · split at ha
          · cases ha
            rfl
          · cases ha
    · rename_i d₂ ha
      split at h
      · rename_i e' ho
        cases h
        refine ⟨heq, Or.inr ⟨d₁, hs, Or.inr ⟨ha, ?_⟩⟩⟩
        rw [heq] at ho
        exact ho
      · cases h

end RollingFile

/-! ### The next archive -/

/-- **Numbers are left** for archives: those that are there are all below some 64-bit word. -/
structure LogSite.Numbered (σ : LogSite) (n : Nat) (d : Disk) : Prop where
  word : n < UInt64.size
  numbers : ∀ above es, d.node? σ.dir = some (.dir above es) →
    ∀ e ∈ es, ∀ k, σ.log.key? e.1 = some k → k.index.toNat < n

/-- The archive that the active file is set aside to. -/
theorem RollingFile.nextArchive_eq (hf : f.At σ) (hb : Below σ.base d)
    (hD : d.node? σ.dir = some (.dir above es)) {index : UInt64}
    (hnext : σ.log.nextIndex f.period (es.map (·.1)) = some index) :
    f.nextArchive d = .ok (σ.pathOf ⟨f.period, index⟩) := by
  have hlist : d.list (dirOf σ.path) = .ok (es.map (·.1)) :=
    Disk.list_ok_iff.2 ⟨σ.dirText, σ.dir, es, (LogSite.walk_dirOf hb).2,
      Disk.entries?_eq_some.2 ⟨above, hD⟩, rfl⟩
  unfold nextArchive
  rw [hf.dir, hf.name, hlist]
  simp only [hnext]
  rfl

/-- **The next archive's name is free**, and its number at most one more than those that are there. -/
theorem LogSite.free_of_numbered (hn : σ.Numbered n d) (hD : d.node? σ.dir = some (.dir above es))
    (period : String) (hperiod : period ≠ "") :
    ∃ index, σ.log.nextIndex period (es.map (·.1)) = some index ∧ index.toNat ≤ n ∧
      ∀ e ∈ es, e.1 ≠ σ.log.archive ⟨period, index⟩ := by
  have hbelow : ∀ i, σ.log.HasNumber period (es.map (·.1)) i → i.toNat < n := by
    rintro i ⟨y, hy, hkey⟩
    obtain ⟨e, he, rfl⟩ := List.mem_map.1 hy
    exact hn.numbers above es hD e he _ hkey
  obtain ⟨index, hnext, hle⟩ := LogName.exists_nextIndex hn.word hbelow
  refine ⟨index, hnext, hle, fun e he heq => ?_⟩
  -- what had the name would have the number
  have hkey : σ.log.key? e.1 = some ⟨period, index⟩ := by
    rw [heq]
    exact LogName.key?_archive σ.log hperiod
  exact UInt64.lt_irrefl _ (LogName.lt_of_nextIndex hnext ⟨e.1, List.mem_map_of_mem he, hkey⟩)

/-! ### Setting aside -/

/-- **Setting aside under a free name** succeeds. -/
theorem LogSite.rename_free (hb : Below σ.base d) (hD : d.node? σ.dir = some (.dir above es)) (hfits : σ.Fits key)
    (hj : d.entryAt σ.dir σ.name = .ok j) (hfree : ∀ e ∈ es, e.1 ≠ σ.log.archive key) :
    ∃ d', d.rename σ.path (σ.pathOf key) = .ok d' := by
  have hnone : lookup es (σ.log.archive key) = none := by
    by_contra hsome
    obtain ⟨k, hk⟩ := Option.ne_none_iff_exists'.1 hsome
    exact hfree _ (Disk.mem_of_lookup hk) rfl
  exact ⟨_, Disk.rename_of_free (locate_path_eq hb) (locate_join_eq hb hfits.isName hfits.text) σ.ends.dots
    hfits.dots hj (entryAt_of_lookup_none hD hfits.dots hfits.size hnone)⟩

/-- **Setting aside, and beginning anew**: the active file goes to the archive's name, its own name goes to a new
and empty file, and all other names stay. -/
theorem LogSite.setAside_create {d₂ : Disk} (hb : Below σ.base d) (hD : d.node? σ.dir = some (.dir above es))
    (hact : Active σ d i content) (hperiod : key.period ≠ "") (hname : IsName (σ.log.archive key))
    (hfree : ∀ e ∈ es, e.1 ≠ σ.log.archive key) (hrename : d.rename σ.path (σ.pathOf key) = .ok d₂) :
    σ.Fits key ∧ ∃ k d' es' j, d₂.openAppend σ.path = .ok (k, d') ∧ d'.Roomy k ∧ Edited σ d d' above es es' ∧
      Active σ d' k [] ∧ d.node? k = none ∧ σ.base.land linkLimit σ.dir j = .ok i ∧
      (∀ e ∈ es', e ∈ es ∨ e.1 = σ.log.archive key ∨ e.1 = σ.name) ∧
      ∀ x, lookup es' x =
        if x = σ.name then some k else if x = σ.log.archive key then some j else lookup es x := by
  obtain ⟨hfits, j, hj, ⟨hk, -⟩ | hedit⟩ := Edited.of_rename hb hD hperiod hname hrename
  · -- no entry has the new name
    obtain ⟨-, hlook⟩ := (Disk.entryAt_eq_ok_iff hD hfits.dots).1 hk
    exact (hfree _ (Disk.mem_of_lookup hlook) rfl).elim
  have hsize := ((Disk.entryAt_eq_ok_iff hD σ.ends.dots).1 hj).1
  obtain ⟨k, d', hopen, hroomy⟩ := openAppend_gone (hedit.below hb) hsize (hedit.gone hfits)
  obtain ⟨hedit', hact', hnone⟩ := Edited.of_create (hedit.below hb) hedit.after (hedit.gone hfits) hopen
  obtain ⟨⟨j', hj', hl⟩, -⟩ := hact
  obtain rfl : j = j' := Except.ok.inj (hj.symm.trans hj')
  refine ⟨hfits, k, d', _, j, hopen, hroomy, hedit.trans hedit', hact', ?_, hl, fun e he => ?_, fun x => ?_⟩
  · by_contra hsome
    obtain ⟨node, hnode⟩ := Option.ne_none_iff_exists'.1 hsome
    by_cases hkD : k = σ.dir
    · rw [hkD, hedit.after] at hnone
      cases hnone
    · rw [hedit.stay k hkD node hnode] at hnone
      cases hnone
  · simp only [List.mem_append, List.mem_filter, List.mem_singleton] at he
    rcases he with ⟨⟨⟨he, -⟩, -⟩ | rfl, -⟩ | rfl
    · exact Or.inl he
    · exact Or.inr (Or.inl rfl)
    · exact Or.inr (Or.inr rfl)
  · rw [Disk.lookup_bind]
    split
    · rfl
    · rename_i hne
      rw [Disk.lookup_bind]
      split
      · rfl
      · rw [Disk.lookup_filter, if_neg hne]

/-- What is gone cannot be set aside. -/
theorem LogSite.not_rename_of_gone {target : String} (hb : Below σ.base d)
    (hgone : ∀ k, d.entryAt σ.dir σ.name ≠ .ok k) : d.rename σ.path target ≠ .ok d' := by
  intro h
  obtain ⟨D, x, -, -, j, hsource, -, -, -, hj, -⟩ := Disk.rename_ok h
  obtain ⟨rfl, rfl⟩ := locate_path hb hsource
  exact hgone j hj

/-! ### A new file -/

namespace RollingFile

variable {d₁ d₂ : Disk} {next target : String}

/-- **A log file that has just begun a new active file.** -/
def begun (f : RollingFile) (i : NodeId) (next : String) : RollingFile :=
  { f with writer := some { file := i }, size := 0, period := next }

theorem At.begun (hf : f.At σ) (i : NodeId) (next : String) : (f.begun i next).At σ :=
  ⟨hf.path, hf.dir, hf.name⟩

/-- A file that believes to be empty stays in use. -/
theorem renew_of_empty (hs : f.settle d = (.ok (), { f with writer := none }, d₁)) (hsize : f.size = 0)
    (hopen : d₁.openAppend f.path = .ok (i, d')) : f.renew next d = (.ok (), f.begun i next, d') := by
  unfold renew setAside
  simp only [hs, if_pos hsize, hopen]
  rfl

/-- Any other is set aside, and made anew. -/
theorem renew_of_rename (hs : f.settle d = (.ok (), { f with writer := none }, d₁)) (hsize : f.size ≠ 0)
    (hnext : f.nextArchive d₁ = .ok target) (hrename : d₁.rename f.path target = .ok d₂)
    (hopen : d₂.openAppend f.path = .ok (i, d')) : f.renew next d = (.ok (), f.begun i next, d') := by
  have hnext' : { f with writer := none }.nextArchive d₁ = .ok target := hnext
  unfold renew setAside
  simp only [hs, if_neg hsize, hnext', hrename, hopen]
  rfl

theorem renew_of_rename_error {e : SystemError} (hs : f.settle d = (.ok (), { f with writer := none }, d₁))
    (hsize : f.size ≠ 0) (hnext : f.nextArchive d₁ = .ok target) (hrename : d₁.rename f.path target = .error e) :
    f.renew next d = (.error e, { f with writer := none }, d₁) := by
  have hnext' : { f with writer := none }.nextArchive d₁ = .ok target := hnext
  unfold renew setAside
  simp only [hs, if_neg hsize, hnext', hrename]

theorem write_of_stays {record : Bytes} {now : Instant} (hopen : f.closed = false)
    (hrolls : f.rolls record now = false) : f.write record now d = f.appendRecord record d := by
  unfold rolls at hrolls
  rw [hopen, Bool.not_false, Bool.true_and] at hrolls
  unfold write
  simp only [hopen, Bool.false_eq_true, if_false, hrolls]

end RollingFile

/-! ### Pruning -/

theorem Edited.refl (hD : d.node? σ.dir = some (.dir above es)) : Edited σ d d above es es :=
  ⟨hD, hD, rfl, fun _ _ _ hn => hn, fun _ _ ht => ht, fun _ _ _ _ hk => hk⟩

namespace RollingFile

/-- The files that are removed, up to the first that cannot be. -/
def removedBy : List String → Disk → List String
  | [], _ => []
  | path :: paths, d =>
    match d.removeFile path with
    | .ok d => path :: removedBy paths d
    | .error _ => []

/-- The archives that pruning removes. -/
def pruned (f : RollingFile) (d : Disk) : List String :=
  match f.excess d with
  | .ok paths => removedBy paths d
  | .error _ => []

/-- **Removing archives** takes out those names that could be removed, and no others. -/
theorem removeAll_edited {paths : List String} (hb : Below σ.base d)
    (hD : d.node? σ.dir = some (.dir above es))
    (hpaths : ∀ p ∈ paths, ∃ y, IsName y ∧ (σ.log.key? y).isSome ∧ p = Path.join (dirOf σ.path) y) :
    Edited σ d (removeAll paths d).2 above es
      (es.filter (fun e => Path.join (dirOf σ.path) e.1 ∉ removedBy paths d)) := by
  induction paths generalizing d es with
  | nil =>
    rw [List.filter_eq_self.2 (by simp [removedBy])]
    exact Edited.refl hD
  | cons p ps ih =>
    obtain ⟨y, hy, hkey, rfl⟩ := hpaths p List.mem_cons_self
    cases hremove : d.removeFile (Path.join (dirOf σ.path) y) with
    | ok d₁ =>
      simp only [removeAll, removedBy, hremove]
      have hedit := Edited.of_remove hb hD hy hkey hremove
      have hrest := ih (hedit.below hb) hedit.after (fun q hq => hpaths q (List.mem_cons_of_mem _ hq))
      have htrans := hedit.trans hrest
      rw [List.filter_filter] at htrans
      convert htrans using 2
      funext e
      by_cases hey : e.1 = y
      · simp [hey]
      · have hne : Path.join (dirOf σ.path) e.1 ≠ Path.join (dirOf σ.path) y :=
          fun heq => hey (join_injective heq)
        simp [hey, hne]
    | error e =>
      simp only [removeAll, removedBy, hremove]
      rw [List.filter_eq_self.2 (by simp)]
      exact Edited.refl hD

theorem removedBy_subset (paths : List String) (d : Disk) : ∀ p ∈ removedBy paths d, p ∈ paths := by
  induction paths generalizing d with
  | nil => simp [removedBy]
  | cons q qs ih =>
    intro p hp
    unfold removedBy at hp
    split at hp
    · rcases List.mem_cons.1 hp with rfl | hp
      · exact List.mem_cons_self
      · exact List.mem_cons_of_mem _ (ih _ p hp)
    · cases hp

/-- **Pruning** takes out archives' names only, whatever comes of it. -/
theorem prune_edited (hf : f.At σ) (hb : Below σ.base d) (hp : d.Proper)
    (hD : d.node? σ.dir = some (.dir above es)) :
    Edited σ d (f.prune d).2 above es (es.filter (fun e => Path.join (dirOf σ.path) e.1 ∉ f.pruned d)) ∧
      ∀ p ∈ f.pruned d, ∃ y, (σ.log.key? y).isSome ∧ p = Path.join (dirOf σ.path) y := by
  unfold prune pruned
  cases hexcess : f.excess d with
  | error e =>
    simp only [List.not_mem_nil, not_false_eq_true, decide_true, false_imp_iff, implies_true, and_true]
    rw [List.filter_eq_self.2 (by simp)]
    exact Edited.refl hD
  | ok paths =>
    obtain ⟨names, hlist, hmem⟩ := mem_excess hexcess
    have hnames : ∀ p ∈ paths, ∃ y, IsName y ∧ (σ.log.key? y).isSome ∧ p = Path.join (dirOf σ.path) y := by
      intro p hpe
      obtain ⟨y, hy, htakes, rfl⟩ := hmem p hpe
      rw [hf.dir] at hlist
      rw [hf.name] at htakes
      obtain ⟨-, D, bs, hD', hbs, rfl⟩ := Disk.list_ok_iff.1 hlist
      obtain ⟨above', hnode⟩ := Disk.entries?_eq_some.1 hbs
      obtain ⟨e, he, rfl⟩ := List.mem_map.1 hy
      exact ⟨e.1, hp D above' bs hnode e he, htakes, by rw [hf.dir]⟩
    refine ⟨removeAll_edited hb hD hnames, fun p hpr => ?_⟩
    obtain ⟨y, -, hkey, rfl⟩ := hnames p (removedBy_subset paths d p hpr)
    exact ⟨y, hkey, rfl⟩

/-- **The active file stays** when archives are pruned, whatever comes of it. -/
theorem active_of_prune (hf : f.At σ) (hb : Below σ.base d) (hp : d.Proper) (hact : Active σ d i content) :
    Active σ (f.prune d).2 i content := by
  obtain ⟨above, es, hD⟩ := LogSite.isDir_above hb
  obtain ⟨hedit, hnames⟩ := prune_edited hf hb hp hD
  refine hedit.active hact (fun k hk => ?_)
  rw [Disk.lookup_filter_name es (fun x => Path.join (dirOf σ.path) x ∉ f.pruned d), if_pos]
  · exact hk
  · -- the log's own name is no archive's
    simp only [decide_eq_true_eq]
    intro hmem
    obtain ⟨y, hkey, heq⟩ := hnames _ hmem
    rw [← join_injective heq, σ.key?_name] at hkey
    cases hkey

theorem keepsRoom_of_prune (hf : f.At σ) (hb : Below σ.base d) (hp : d.Proper) :
    Disk.KeepsRoom d (f.prune d).2 := by
  obtain ⟨above, es, hD⟩ := LogSite.isDir_above hb
  obtain ⟨hedit, -⟩ := prune_edited hf hb hp hD
  rintro i ⟨c, hc⟩
  exact ⟨c, hedit.file hc⟩

end RollingFile

/-! ### `host.log` in the working directory -/

/-- `host.log` in the working directory, which is empty at first. -/
def LogSite.hostLog : LogSite where
  base := Disk.empty
  path := "host.log"
  name := "host.log"
  dir := 3
  ends := ⟨by decide +kernel, by decide +kernel, by decide +kernel⟩
  text := by decide +kernel
  dirText := by decide +kernel
  walk := by decide +kernel
  isDir := by decide +kernel
  foreign := by
    intro above es hes x k hk
    cases hes
    cases hk

namespace Disk

/-- A disk with some names in the working directory, and more nodes. -/
def working (names : List (String × NodeId)) (more : List Node) : Disk where
  nodes := (([.dir 0 [("dev", 1), ("work", 3)], .dir 0 [("full", 2)], .file [] (some 0), .dir 0 names] : List Node)
    ++ more).toArray
  home := 3

variable {names : List (String × NodeId)} {more : List Node}

/-- The nodes after the first four. -/
theorem mem_of_node?_working {node : Node} (h : (working names more).node? j = some node) (hj : 4 ≤ j) :
    node ∈ more := by
  unfold node? working at h
  rw [List.getElem?_toArray, List.getElem?_append_right hj] at h
  exact List.mem_of_getElem? h

theorem below_working (hmore : ∀ t, .link t ∉ more) : Below LogSite.hostLog.base (working names more) := by
  refine ⟨rfl, fun {j above es} hj => ?_, fun j t => ?_⟩
  · have hlt : j < 4 := lt_size_of_node? hj
    interval_cases j <;> cases hj
    · exact ⟨_, rfl, fun _ _ hk => hk⟩
    · exact ⟨_, rfl, fun _ _ hk => hk⟩
    · exact ⟨names, rfl, fun _ _ hk => by cases hk⟩
  · constructor
    · intro hj
      have hlt : j < 4 := lt_size_of_node? hj
      interval_cases j <;> cases hj
    · intro hj
      rcases Nat.lt_or_ge j 4 with hlt | hge
      · interval_cases j <;> cases hj
      · exact (hmore t (mem_of_node?_working hj hge)).elim

theorem proper_working (hnames : ∀ e ∈ names, IsName e.1)
    (hmore : ∀ above es, .dir above es ∈ more → ∀ e ∈ es, IsName e.1) : (working names more).Proper := by
  intro D above es hD
  rcases Nat.lt_or_ge D 4 with hlt | hge
  · interval_cases D <;> cases hD
    · simp +decide [IsName]
    · simp +decide [IsName]
    · exact hnames
  · exact hmore above es (mem_of_node?_working hD hge)

end Disk

end ModuleHost
