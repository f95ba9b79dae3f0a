import Mathlib
import ModuleHost.Proofs.Logging.ForeignName
import ModuleHost.Proofs.Storage.Calls

/-!
# The directory of a log file

The active file and its archives in one directory, on a disk where nobody else changes that directory.

* `LogSite`: a log file's path, and the directory that it leads to. This stays the same while the log's
  own names come and go.
* `Stock`: the archives in the directory, in any order. `Stock.archives`, `Stock.read`: they are listed in the
  order of their keys and can be read.
* `Shelf`: the same, in the order of their keys.
* `Active`: the active file, reached by its name or through links.
* `Stock.setAside`, `Stock.create`, `Stock.prune`: what the parts of a roll do.
-/

namespace ModuleHost

open Disk (Below Appended linkLimit startOf fullSteps checkText nameLimit isDots lookup)
open ModuleHost.Path (EndsIn IsName)

/-! ### Where a log file is -/

/-- **The place of a log file**: its path, the name it ends in, and the directory that the path leads to
without that name, on a disk that the log's own names were taken from. -/
structure LogSite where
  base : Disk
  path : String
  name : String
  dir : NodeId
  ends : EndsIn path name
  text : checkText path = .ok ()
  dirText : checkText (RollingFile.dirOf path) = .ok ()
  walk : base.walk linkLimit (startOf path base.home) (Path.steps path).dropLast = .ok dir
  isDir : base.isDirNode dir = true
  foreign : ∀ {above es}, base.node? dir = some (.dir above es) → ∀ x k, lookup es x = some k →
    x ≠ name ∧ LogName.key? ⟨(Path.splitName name).1, (Path.splitName name).2⟩ x = none

namespace LogSite

variable {σ : LogSite} {d d' : Disk} {i j k : NodeId} {x : String}

/-- The log file's name in its parts. -/
def log (σ : LogSite) : LogName :=
  ⟨(Path.splitName σ.name).1, (Path.splitName σ.name).2⟩

theorem log_text (σ : LogSite) : σ.log.text = σ.name :=
  LogName.text_ofName σ.name

/-- The path of an archive. -/
def pathOf (σ : LogSite) (key : ArchiveKey) : String :=
  Path.join (RollingFile.dirOf σ.path) (σ.log.archive key)

theorem key?_name (σ : LogSite) : σ.log.key? σ.name = none := by
  rw [← log_text]
  exact LogName.key?_text _

/-- The path leads to the directory without its name. -/
theorem walk_above (hb : Below σ.base d) :
    d.walk linkLimit (startOf σ.path d.home) (Path.steps σ.path).dropLast = .ok σ.dir := by
  rw [← hb.home]
  exact hb.walk (le_refl _) σ.walk

/-- The directory's text leads to the directory. -/
theorem walk_dirOf (hb : Below σ.base d) :
    d.walk linkLimit (startOf (RollingFile.dirOf σ.path) d.home)
        (Path.steps (RollingFile.dirOf σ.path)) = .ok σ.dir ∧
      d.walk linkLimit (startOf (RollingFile.dirOf σ.path) d.home)
        (fullSteps (RollingFile.dirOf σ.path)) = .ok σ.dir :=
  Disk.walk_dirOf σ.ends (hb.isDirNode σ.isDir) (walk_above hb)

/-- The path leads where its name leads in the directory. -/
theorem walk_path (hb : Below σ.base d) (h : d.walk linkLimit σ.dir [σ.name] = .ok k) :
    d.walk linkLimit (startOf σ.path d.home) (fullSteps σ.path) = .ok k := by
  rw [Disk.fullSteps_of_endsIn σ.ends]
  exact Disk.walk_append_ok_iff.2 ⟨σ.dir, walk_above hb, h⟩

/-- A path inside the directory leads where its name leads there. -/
theorem walk_join (hb : Below σ.base d) (hx : IsName x) (h : d.walk linkLimit σ.dir [x] = .ok k) :
    d.walk linkLimit (startOf (Path.join (RollingFile.dirOf σ.path) x) d.home)
      (fullSteps (Path.join (RollingFile.dirOf σ.path) x)) = .ok k := by
  have hstart : startOf (Path.join (RollingFile.dirOf σ.path) x) d.home =
      startOf (RollingFile.dirOf σ.path) d.home := by
    unfold startOf
    rw [Path.isAbsolute_join hx]
  rw [hstart]
  unfold fullSteps
  rw [Path.steps_join hx, Path.not_endsInSlash_join hx]
  simp only [Bool.false_eq_true, if_false, List.append_nil]
  exact Disk.walk_append_ok_iff.2 ⟨σ.dir, (walk_dirOf hb).1, h⟩

theorem locate_path (hb : Below σ.base d) (h : d.locate σ.path = .ok (i, some x)) :
    i = σ.dir ∧ x = σ.name := by
  obtain ⟨-, hx, hw, -⟩ := Disk.locate_ok_iff.1 h
  refine ⟨Disk.walk_unique hw (walk_above hb), ?_⟩
  rw [σ.ends.steps] at hx
  exact (Option.some.inj hx).symm

theorem locate_join (hb : Below σ.base d) {y : String} (hx : IsName x)
    (h : d.locate (Path.join (RollingFile.dirOf σ.path) x) = .ok (i, some y)) : i = σ.dir ∧ y = x := by
  obtain ⟨-, hy, hw, -⟩ := Disk.locate_ok_iff.1 h
  have hstart : startOf (Path.join (RollingFile.dirOf σ.path) x) d.home =
      startOf (RollingFile.dirOf σ.path) d.home := by
    unfold startOf
    rw [Path.isAbsolute_join hx]
  rw [hstart, Path.steps_join hx, List.dropLast_concat] at hw
  rw [Path.steps_join hx, List.getLast?_concat] at hy
  exact ⟨Disk.walk_unique hw (walk_dirOf hb).1, (Option.some.inj hy).symm⟩

/-! ### Names that fit -/

theorem isName_archive (σ : LogSite) {key : ArchiveKey} (h : '/' ∉ key.period.toList) :
    IsName (σ.log.archive key) :=
  LogName.isName_archive (by rw [log_text]; exact σ.ends.isName.2) h

/-- What a clock shows can be in an archive's name. -/
theorem archive_of_clock (σ : LogSite) (key : ArchiveKey) {r : Rotation} (h : ∃ t, key.period = r.period t) :
    key.period ≠ "" ∧ IsName (σ.log.archive key) := by
  obtain ⟨t, ht⟩ := h
  refine ⟨?_, σ.isName_archive ?_⟩
  · rw [ht]
    exact r.period_ne_empty t
  · rw [ht]
    exact r.slash_not_mem_period t

/-- A key whose archive can have its name and its path. -/
structure Fits (σ : LogSite) (key : ArchiveKey) : Prop where
  period : key.period ≠ ""
  isName : IsName (σ.log.archive key)
  size : (σ.log.archive key).utf8ByteSize ≤ nameLimit
  dots : isDots (σ.log.archive key) = false
  text : checkText (σ.pathOf key) = .ok ()

theorem Fits.key? {key : ArchiveKey} (h : σ.Fits key) : σ.log.key? (σ.log.archive key) = some key :=
  LogName.key?_archive _ h.period

theorem Fits.ne_name {key : ArchiveKey} (h : σ.Fits key) : σ.log.archive key ≠ σ.name := by
  intro heq
  have := h.key?
  rw [heq, key?_name] at this
  cases this

/-- The archives of two keys are not at one path. -/
theorem Fits.pathOf_inj {key key' : ArchiveKey} (h : σ.Fits key) (h' : σ.Fits key')
    (heq : σ.pathOf key = σ.pathOf key') : key = key' := by
  have hsteps := congrArg Path.steps heq
  unfold pathOf at hsteps
  rw [Path.steps_join h.isName, Path.steps_join h'.isName] at hsteps
  exact LogName.archive_injective _ (List.singleton_inj.1 (List.append_cancel_left hsteps))

end LogSite

/-! ### The archives -/

/-- An archive: its key, its entry in the directory, the file that the entry leads to, and what it
holds. -/
structure Kept where
  key : ArchiveKey
  entry : NodeId
  file : NodeId
  content : Bytes

/-- The path of an archive and what it holds. -/
def Kept.item (a : Kept) (σ : LogSite) : String × Bytes :=
  (σ.pathOf a.key, a.content)

/-- **An archive is there**, to be found and to be read. -/
structure Kept.On (a : Kept) (σ : LogSite) (d : Disk) : Prop where
  fits : σ.Fits a.key
  leads : σ.base.land linkLimit σ.dir a.entry = .ok a.file
  holds : ∃ room, d.node? a.file = some (.file a.content room)

/-- **An archive can be read**, if its name leads to its entry. -/
theorem Kept.On.read {a : Kept} {σ : LogSite} {d : Disk} {above : NodeId} {es : List (String × NodeId)}
    (h : a.On σ d) (hb : Below σ.base d) (hD : d.node? σ.dir = some (.dir above es))
    (hlook : lookup es (σ.log.archive a.key) = some a.entry) : d.read (σ.pathOf a.key) = .ok a.content := by
  obtain ⟨room, hroom⟩ := h.holds
  have hentry : d.entryAt σ.dir (σ.log.archive a.key) = .ok a.entry :=
    (Disk.entryAt_eq_ok_iff hD h.fits.dots).2 ⟨h.fits.size, hlook⟩
  have hwalk : d.walk linkLimit σ.dir [σ.log.archive a.key] = .ok a.file :=
    Disk.walk_singleton_ok_iff.2 ⟨a.entry, hentry, hb.land (le_refl _) h.leads⟩
  exact Disk.read_ok_iff.2 ⟨h.fits.text, a.file, room, LogSite.walk_join hb h.fits.isName hwalk, hroom⟩

/-- **The archives in the directory**, in any order: those are all its entries with an archive's name, and each
has a key of its own. -/
structure Stock (σ : LogSite) (d : Disk) (as : List Kept) : Prop where
  below : Below σ.base d
  entries : ∃ above es, d.node? σ.dir = some (.dir above es) ∧
    es.filter (fun e => (σ.log.key? e.1).isSome) = as.map (fun a => (σ.log.archive a.key, a.entry))
  on : ∀ a ∈ as, a.On σ d
  distinct : as.Pairwise (fun a b => a.key ≠ b.key)

/-- **The archives in the directory**: those are all its entries with an archive's name, and the keys
grow from each to the next. -/
structure Shelf (σ : LogSite) (d : Disk) (as : List Kept) : Prop where
  below : Below σ.base d
  entries : ∃ above es, d.node? σ.dir = some (.dir above es) ∧
    es.filter (fun e => (σ.log.key? e.1).isSome) = as.map (fun a => (σ.log.archive a.key, a.entry))
  on : ∀ a ∈ as, a.On σ d
  older : as.Pairwise (fun a b => a.key.Older b.key)

theorem Shelf.stock {σ : LogSite} {d : Disk} {as : List Kept} (h : Shelf σ d as) : Stock σ d as :=
  ⟨h.below, h.entries, h.on, h.older.imp (fun hab => hab.ne)⟩

theorem Stock.shelf {σ : LogSite} {d : Disk} {as : List Kept} (h : Stock σ d as)
    (holder : as.Pairwise (fun a b => a.key.Older b.key)) : Shelf σ d as :=
  ⟨h.below, h.entries, h.on, holder⟩

/-- **The active file** is reached by its name, as the file with number `i`. -/
structure Active (σ : LogSite) (d : Disk) (i : NodeId) (content : Bytes) : Prop where
  leads : ∃ j, d.entryAt σ.dir σ.name = .ok j ∧ σ.base.land linkLimit σ.dir j = .ok i
  holds : ∃ room, d.node? i = some (.file content room)

/-- A rolling file at a site. -/
structure RollingFile.At (f : RollingFile) (σ : LogSite) : Prop where
  path : f.path = σ.path
  dir : f.dir = RollingFile.dirOf σ.path
  name : f.name = σ.log

/-- Archives with keys of their own are listed in the order of these. -/
theorem RollingFile.keyedArchives_of_perm {f : RollingFile} {d : Disk} {names : List String}
    {as : List (ArchiveKey × String)} (hlist : d.list f.dir = .ok names) (hperm : as.Perm (f.name.keyed names))
    (holder : as.Pairwise (fun a b => a.1.Older b.1)) : f.keyedArchives d = .ok as := by
  unfold keyedArchives
  rw [hlist]
  simp only
  rw [LogName.archivesAmong_of_perm hperm holder]

namespace Stock

variable {σ : LogSite} {d d' : Disk} {as bs : List Kept} {a : Kept} {i : NodeId} {content : Bytes}
  {f : RollingFile} {key : ArchiveKey}

/-! #### Listing and reading -/

/-- The names in the directory, with those of the archives and their keys. -/
theorem list_eq (h : Stock σ d as) :
    ∃ names, d.list (RollingFile.dirOf σ.path) = .ok names ∧
      σ.log.keyed names = as.map (fun a => (a.key, σ.log.archive a.key)) := by
  obtain ⟨above, es, hD, hes⟩ := h.entries
  refine ⟨es.map (·.1), ?_, ?_⟩
  · exact Disk.list_ok_iff.2 ⟨σ.dirText, σ.dir, es, (LogSite.walk_dirOf h.below).2,
      Disk.entries?_eq_some.2 ⟨above, hD⟩, rfl⟩
  · have hfilter : σ.log.keyed (es.map (·.1)) =
        (es.filter (fun e => (σ.log.key? e.1).isSome)).filterMap
          (fun e => (σ.log.key? e.1).map (fun k => (k, e.1))) := by
      unfold LogName.keyed
      rw [List.filterMap_map, List.filterMap_filter]
      refine List.filterMap_congr (fun e _ => ?_)
      cases hk : σ.log.key? e.1 <;> simp [hk]
    rw [hfilter, hes, List.filterMap_map, ← List.filterMap_eq_map]
    refine List.filterMap_congr (fun a ha => ?_)
    simp [(h.on a ha).fits.key?]

/-- **The archives are listed in the order of their keys.** -/
theorem keyedArchives (h : Stock σ d as) (hf : f.At σ) (hperm : bs.Perm as)
    (holder : bs.Pairwise (fun a b => a.key.Older b.key)) :
    f.keyedArchives d = .ok (bs.map (fun a => (a.key, σ.log.archive a.key))) := by
  obtain ⟨names, hlist, hkeyed⟩ := h.list_eq
  have hlist : d.list f.dir = .ok names := by rw [hf.dir, hlist]
  refine RollingFile.keyedArchives_of_perm hlist ?_ (List.pairwise_map.2 holder)
  rw [hf.name, hkeyed]
  exact hperm.map _

theorem archives (h : Stock σ d as) (hf : f.At σ) (hperm : bs.Perm as)
    (holder : bs.Pairwise (fun a b => a.key.Older b.key)) :
    f.archives d = .ok (bs.map (fun a => σ.pathOf a.key)) := by
  unfold RollingFile.archives
  rw [h.keyedArchives hf hperm holder, hf.dir]
  simp only [Except.map, List.map_map]
  rfl

theorem eq_of_key (h : Stock σ d as) {b : Kept} (ha : a ∈ as) (hb : b ∈ as) (hk : a.key = b.key) : a = b :=
  List.inj_on_of_nodup_map (List.pairwise_map.2 h.distinct) ha hb hk

/-- An archive's entry is found by its name. -/
theorem lookup_archive (h : Stock σ d as) (ha : a ∈ as) {above : NodeId} {es : List (String × NodeId)}
    (hD : d.node? σ.dir = some (.dir above es)) : lookup es (σ.log.archive a.key) = some a.entry := by
  obtain ⟨above', es', hD', hes⟩ := h.entries
  rw [hD] at hD'
  cases hD'
  have hkey := (h.on a ha).fits.key?
  -- what has the archive's name is among the archives
  have hfind : lookup es (σ.log.archive a.key) =
      lookup (es.filter (fun e => (σ.log.key? e.1).isSome)) (σ.log.archive a.key) := by
    unfold lookup
    rw [List.find?_filter]
    congr 2
    funext e
    by_cases he : e.1 = σ.log.archive a.key
    · simp [he, hkey]
    · simp [he]
  rw [hfind, hes]
  have hsub : ∀ bs : List Kept, (∀ b ∈ bs, b ∈ as) → a ∈ bs →
      lookup (bs.map (fun a => (σ.log.archive a.key, a.entry))) (σ.log.archive a.key) = some a.entry := by
    intro bs
    induction bs with
    | nil => intro _ ha; cases ha
    | cons b bs ih =>
      intro hbs hab
      rw [List.map_cons, Disk.lookup_cons]
      split
      · rename_i heq
        have hb := hbs b List.mem_cons_self
        rw [h.eq_of_key hb ha (LogName.archive_injective _ heq)]
      · rename_i hne
        exact ih (fun c hc => hbs c (List.mem_cons_of_mem _ hc))
          ((List.mem_cons.1 hab).resolve_left (fun heq => hne (by rw [heq])))
  exact hsub as (fun _ hb => hb) ha

/-- **An archive can be read.** -/
theorem read (h : Stock σ d as) (ha : a ∈ as) : d.read (σ.pathOf a.key) = .ok a.content := by
  obtain ⟨above, es, hD, -⟩ := h.entries
  exact (h.on a ha).read h.below hD (h.lookup_archive ha hD)

/-- Archives with keys of their own have paths of their own. -/
theorem nodup_paths (h : Stock σ d as) : (as.map (fun a => σ.pathOf a.key)).Nodup :=
  List.pairwise_map.2 (h.distinct.imp_of_mem fun {a b} ha hb hne heq =>
    hne ((h.on a ha).fits.pathOf_inj (h.on b hb).fits heq))

/-- Another file may grow. -/
theorem appended {bytes : Bytes} (h : Stock σ d as) (happ : Appended d i bytes d')
    (hne : ∀ a ∈ as, a.file ≠ i) : Stock σ d' as := by
  obtain ⟨above, es, hD, hes⟩ := h.entries
  refine ⟨h.below.trans happ.below, ⟨above, es, happ.dir hD, hes⟩, fun a ha => ?_, h.distinct⟩
  obtain ⟨hfits, hleads, room, hroom⟩ := h.on a ha
  exact ⟨hfits, hleads, room, by rw [happ.others _ (hne a ha)]; exact hroom⟩

/-! #### The parts of a roll -/

/-- **The next archive's key** is larger than all keys that are there and not of a later period. -/
theorem nextArchive {m : Nat} (h : Stock σ d as) (hf : f.At σ) (hm : m < UInt64.size)
    (hindex : ∀ a ∈ as, a.key.index.toNat < m) :
    ∃ index, f.nextArchive d = .ok (σ.pathOf ⟨f.period, index⟩) ∧ index.toNat ≤ m ∧
      ∀ a ∈ as, a.key.period ≤ f.period → a.key.Older ⟨f.period, index⟩ := by
  obtain ⟨names, hlist, hkeyed⟩ := h.list_eq
  have hbelow : ∀ i, σ.log.HasNumber f.period names i → i.toNat < m := by
    intro i hi
    obtain ⟨a, ha, -, rfl⟩ := LogName.hasNumber_iff.1 hi
    rw [hkeyed] at ha
    obtain ⟨b, hb, rfl⟩ := List.mem_map.1 ha
    exact hindex b hb
  obtain ⟨index, hnext, hle⟩ := LogName.exists_nextIndex hm hbelow
  refine ⟨index, ?_, hle, fun a ha hp => ?_⟩
  · unfold RollingFile.nextArchive
    rw [hf.dir, hf.name, hlist]
    simp only [hnext]
    rfl
  · -- an archive of an earlier period is older anyhow; in the same period the number counts
    rcases lt_or_eq_of_le hp with hp | hp
    · exact Or.inl hp
    · refine Or.inr ⟨hp, LogName.lt_of_nextIndex hnext
        (LogName.hasNumber_iff.2 ⟨(a.key, σ.log.archive a.key), ?_, hp, rfl⟩)⟩
      rw [hkeyed]
      exact List.mem_map.2 ⟨a, ha, rfl⟩

end Stock

namespace Shelf

variable {σ : LogSite} {d d' : Disk} {as : List Kept} {a : Kept} {i : NodeId} {f : RollingFile}

/-- The names in the directory, with those of the archives in the order of their keys. -/
theorem list_eq (h : Shelf σ d as) :
    ∃ names, d.list (RollingFile.dirOf σ.path) = .ok names ∧
      σ.log.keyed names = as.map (fun a => (a.key, σ.log.archive a.key)) :=
  h.stock.list_eq

/-- **The archives are listed in the order of the shelf.** -/
theorem archives (h : Shelf σ d as) (hf : f.At σ) :
    f.archives d = .ok (as.map (fun a => σ.pathOf a.key)) :=
  h.stock.archives hf (List.Perm.refl _) h.older

/-- **An archive can be read.** -/
theorem read (h : Shelf σ d as) (ha : a ∈ as) : d.read (σ.pathOf a.key) = .ok a.content :=
  h.stock.read ha

/-- Another file may grow. -/
theorem appended {bytes : Bytes} (h : Shelf σ d as) (happ : Appended d i bytes d')
    (hne : ∀ a ∈ as, a.file ≠ i) : Shelf σ d' as :=
  (h.stock.appended happ hne).shelf h.older

end Shelf

/-! ### Changes to the directory -/

/-- **A change of the directory that only concerns the log's own names**: nodes that are there stay, all
but the directory, and so do the entries of others. -/
structure Edited (σ : LogSite) (d d' : Disk) (above : NodeId) (es es' : List (String × NodeId)) : Prop where
  before : d.node? σ.dir = some (.dir above es)
  after : d'.node? σ.dir = some (.dir above es')
  home : d'.home = d.home
  stay : ∀ j, j ≠ σ.dir → ∀ n, d.node? j = some n → d'.node? j = some n
  links : ∀ j t, d'.node? j = some (.link t) → d.node? j = some (.link t)
  others : ∀ x k, x ≠ σ.name → σ.log.key? x = none → lookup es x = some k → lookup es' x = some k

namespace Edited

variable {σ : LogSite} {d d' : Disk} {above : NodeId} {es es' : List (String × NodeId)} {a : Kept}
  {i : NodeId} {content : Bytes} {x : String}

theorem below (h : Edited σ d d' above es es') (hb : Below σ.base d) : Below σ.base d' := by
  refine ⟨hb.home.trans h.home.symm, fun {j above' bs} hj => ?_, fun j t => ?_⟩
  · obtain ⟨ds, hds, hlook⟩ := hb.dirs hj
    by_cases hjD : j = σ.dir
    · subst hjD
      rw [h.before] at hds
      cases hds
      refine ⟨es', h.after, fun x k hk => ?_⟩
      obtain ⟨hx, hkey⟩ := σ.foreign hj x k hk
      exact h.others x k hx hkey (hlook x k hk)
    · exact ⟨ds, h.stay j hjD _ hds, hlook⟩
  · rw [hb.links]
    constructor
    · intro hj
      refine h.stay j ?_ _ hj
      rintro rfl
      rw [h.before] at hj
      cases hj
    · exact h.links j t

/-- Files stay. -/
theorem file {c : Bytes} {room : Option Nat} (h : Edited σ d d' above es es')
    (hf : d.node? i = some (.file c room)) : d'.node? i = some (.file c room) := by
  refine h.stay i ?_ _ hf
  rintro rfl
  rw [h.before] at hf
  cases hf

theorem on (h : Edited σ d d' above es es') (ha : a.On σ d) : a.On σ d' := by
  obtain ⟨hfits, hleads, room, hroom⟩ := ha
  exact ⟨hfits, hleads, room, h.file hroom⟩

/-- The active file stays if its name does. -/
theorem active (h : Edited σ d d' above es es') (hact : Active σ d i content)
    (hname : ∀ k, lookup es σ.name = some k → lookup es' σ.name = some k) : Active σ d' i content := by
  obtain ⟨⟨j, hj, hl⟩, room, hroom⟩ := hact
  obtain ⟨hsize, hlook⟩ := (Disk.entryAt_eq_ok_iff h.before σ.ends.dots).1 hj
  exact ⟨⟨j, (Disk.entryAt_eq_ok_iff h.after σ.ends.dots).2 ⟨hsize, hname j hlook⟩, hl⟩, room, h.file hroom⟩

/-- Taking out one of the log's own names. -/
theorem dropName (hD : d.node? σ.dir = some (.dir above es))
    (hx : x = σ.name ∨ (σ.log.key? x).isSome) :
    Edited σ d (d.dropName σ.dir x) above es (es.filter (fun e => e.1 != x)) := by
  refine ⟨hD, by rw [Disk.node?_dropName hD, if_pos rfl], Disk.home_dropName hD x, ?_, ?_, ?_⟩
  · intro j hj n hn
    rw [Disk.node?_dropName hD, if_neg hj]
    exact hn
  · intro j t hj
    rw [Disk.node?_dropName hD] at hj
    split at hj
    · cases hj
    · exact hj
  · intro y k hy hkey hk
    rw [Disk.lookup_filter, if_neg]
    · exact hk
    · rintro rfl
      rcases hx with hx | hx
      · exact hy hx
      · rw [hkey] at hx
        cases hx

/-- Putting in one of the log's own names. -/
theorem bindName (hD : d.node? σ.dir = some (.dir above es)) (j : NodeId)
    (hx : x = σ.name ∨ (σ.log.key? x).isSome) :
    Edited σ d (d.bindName σ.dir x j) above es (es.filter (fun e => e.1 != x) ++ [(x, j)]) := by
  refine ⟨hD, by rw [Disk.node?_bindName hD, if_pos rfl], Disk.home_bindName hD x j, ?_, ?_, ?_⟩
  · intro k hk n hn
    rw [Disk.node?_bindName hD, if_neg hk]
    exact hn
  · intro k t hk
    rw [Disk.node?_bindName hD] at hk
    split at hk
    · cases hk
    · exact hk
  · intro y k hy hkey hk
    rw [Disk.lookup_bind, if_neg]
    · exact hk
    · rintro rfl
      rcases hx with hx | hx
      · exact hy hx
      · rw [hkey] at hx
        cases hx

/-- Adding a file that has no name yet. -/
theorem addFile (hD : d.node? σ.dir = some (.dir above es)) (c : Bytes) (room : Option Nat) :
    Edited σ d (d.addNode (.file c room)).2 above es es := by
  refine ⟨hD, ?_, rfl, ?_, ?_, fun _ _ _ _ hk => hk⟩
  · rw [Disk.node?_addNode, if_neg (Disk.ne_size_of_node? hD)]
    exact hD
  · intro j _ n hn
    rw [Disk.node?_addNode, if_neg (Disk.ne_size_of_node? hn)]
    exact hn
  · intro j t hj
    rw [Disk.node?_addNode] at hj
    split at hj
    · cases hj
    · exact hj

theorem trans {d'' : Disk} {es'' : List (String × NodeId)} (h : Edited σ d d' above es es')
    (h' : Edited σ d' d'' above es' es'') : Edited σ d d'' above es es'' :=
  ⟨h.before, h'.after, h'.home.trans h.home, fun j hj n hn => h'.stay j hj n (h.stay j hj n hn),
    fun j t hj => h.links j t (h'.links j t hj),
    fun x k hx hkey hk => h'.others x k hx hkey (h.others x k hx hkey hk)⟩

end Edited

/-! ### The parts of a roll -/

section Parts

variable {σ : LogSite} {d d' : Disk} {as : List Kept} {a : Kept} {i k : NodeId} {content : Bytes}
  {key : ArchiveKey}

theorem LogSite.ne_name_of_isSome (σ : LogSite) {x : String} (hx : (σ.log.key? x).isSome) : x ≠ σ.name := by
  rintro rfl
  rw [σ.key?_name] at hx
  cases hx

/-- Names that no archive has may be left out. -/
theorem LogSite.filter_key?_filter (σ : LogSite) {es : List (String × NodeId)} {x : String}
    (hx : ∀ e ∈ es, (σ.log.key? e.1).isSome → e.1 ≠ x) :
    (es.filter (fun e => e.1 != x)).filter (fun e => (σ.log.key? e.1).isSome) =
      es.filter (fun e => (σ.log.key? e.1).isSome) := by
  rw [List.filter_filter]
  refine List.filter_congr (fun e he => ?_)
  cases hsome : (σ.log.key? e.1).isSome with
  | false => rfl
  | true => simpa using hx e he hsome

/-- **Renaming the active file** to an archive's name moves its entry, or does nothing if the archive's name has
the same entry. -/
theorem Edited.of_rename {above : NodeId} {es : List (String × NodeId)} (hb : Below σ.base d)
    (hD : d.node? σ.dir = some (.dir above es)) (hperiod : key.period ≠ "")
    (hname : IsName (σ.log.archive key)) (hr : d.rename σ.path (σ.pathOf key) = .ok d') :
    σ.Fits key ∧ ∃ j, d.entryAt σ.dir σ.name = .ok j ∧
      (d.entryAt σ.dir (σ.log.archive key) = .ok j ∧ d' = d ∨
        Edited σ d d' above es
          ((es.filter (fun e => e.1 != σ.name)).filter (fun e => e.1 != σ.log.archive key) ++
            [(σ.log.archive key, j)])) := by
  have hkey : σ.log.key? (σ.log.archive key) = some key := LogName.key?_archive _ hperiod
  obtain ⟨D, x, D', y, j, hsource, htarget, -, hydots, hj, hcase⟩ := Disk.rename_ok hr
  obtain ⟨rfl, rfl⟩ := LogSite.locate_path hb hsource
  have htext := (Disk.locate_ok_iff.1 htarget).1
  obtain ⟨rfl, rfl⟩ := LogSite.locate_join hb hname htarget
  have hsize : (σ.log.archive key).utf8ByteSize ≤ nameLimit := by
    rcases hcase with ⟨hk, -⟩ | ⟨⟨k, hk, -⟩ | hn, -⟩
    · exact ((Disk.entryAt_eq_ok_iff hD hydots).1 hk).1
    · exact ((Disk.entryAt_eq_ok_iff hD hydots).1 hk).1
    · exact (Disk.entryAt_eq_notFound hD hydots hn).1
  refine ⟨⟨hperiod, hname, hsize, hydots, htext⟩, j, hj, ?_⟩
  rcases hcase with ⟨hk, rfl⟩ | ⟨-, rfl⟩
  · exact Or.inl ⟨hk, rfl⟩
  have hdrop := Edited.dropName hD (Or.inl rfl : σ.name = σ.name ∨ _)
  have hbind := Edited.bindName hdrop.after j (Or.inr (by rw [hkey]; rfl) : _ ∨ (σ.log.key? _).isSome)
  exact Or.inr (hdrop.trans hbind)

/-- Then nothing has the log's own name any more. -/
theorem Edited.gone {above : NodeId} {es : List (String × NodeId)} {j : NodeId} (hfits : σ.Fits key)
    (h : Edited σ d d' above es
      ((es.filter (fun e => e.1 != σ.name)).filter (fun e => e.1 != σ.log.archive key) ++
        [(σ.log.archive key, j)])) :
    ∀ k, d'.entryAt σ.dir σ.name ≠ .ok k := by
  intro k hk
  obtain ⟨-, hlook⟩ := (Disk.entryAt_eq_ok_iff h.after σ.ends.dots).1 hk
  rw [Disk.lookup_bind, if_neg hfits.ne_name.symm, Disk.lookup_filter, if_pos rfl] at hlook
  cases hlook

/-- **Opening where the name is gone** makes a new, empty active file. -/
theorem Edited.of_create {above : NodeId} {es : List (String × NodeId)} (hb : Below σ.base d)
    (hD : d.node? σ.dir = some (.dir above es)) (hgone : ∀ k, d.entryAt σ.dir σ.name ≠ .ok k)
    (ho : d.openAppend σ.path = .ok (i, d')) :
    Edited σ d d' above es (es.filter (fun e => e.1 != σ.name) ++ [(σ.name, i)]) ∧
      Active σ d' i [] ∧ d.node? i = none := by
  obtain ⟨-, ho⟩ := Disk.openAppend_ok ho
  obtain ⟨x, D, hends, hw, -, hcase⟩ := Disk.openAppendAt_ok ho
  obtain rfl : x = σ.name := Option.some.inj (hends.steps.symm.trans σ.ends.steps)
  obtain rfl : D = σ.dir := Disk.walk_unique hw (LogSite.walk_above hb)
  rcases hcase with ⟨hn, rfl, rfl⟩ | ⟨j, hj, -⟩
  · obtain ⟨hsize, -⟩ := Disk.entryAt_eq_notFound hD σ.ends.dots hn
    have hadd := Edited.addFile (σ := σ) hD [] none
    have hbind := Edited.bindName hadd.after d.nodes.size (Or.inl rfl : σ.name = σ.name ∨ _)
    have hedit := hadd.trans hbind
    have hnone : d.node? d.nodes.size = none := by
      unfold Disk.node?
      simp
    have hnew : d.nodes.size ≠ σ.dir := (Disk.ne_size_of_node? hD).symm
    refine ⟨hedit, ⟨⟨d.nodes.size, ?_, ?_⟩, none, ?_⟩, hnone⟩
    · refine (Disk.entryAt_eq_ok_iff hedit.after σ.ends.dots).2 ⟨hsize, ?_⟩
      rw [Disk.lookup_bind, if_pos rfl]
    · -- the new number is no link's
      unfold Disk.land
      split
      · rename_i t ht
        rw [hb.links, hnone] at ht
        cases ht
      · rfl
    · rw [Disk.node?_bindName hadd.after, if_neg hnew, Disk.node?_addNode, if_pos rfl]
  · exact (hgone j hj).elim

/-- A file that is there is not the new one. -/
theorem Kept.On.ne_of_none (ha : a.On σ d) (hi : d.node? i = none) : a.file ≠ i := by
  obtain ⟨room, hroom⟩ := ha.holds
  rintro rfl
  rw [hi] at hroom
  cases hroom

/-- **Removing a file by an archive's name** takes that name out. -/
theorem Edited.of_remove {above : NodeId} {es : List (String × NodeId)} {x : String} (hb : Below σ.base d)
    (hD : d.node? σ.dir = some (.dir above es)) (hname : IsName x) (hkey : (σ.log.key? x).isSome)
    (hr : d.removeFile (Path.join (RollingFile.dirOf σ.path) x) = .ok d') :
    Edited σ d d' above es (es.filter (fun e => e.1 != x)) := by
  obtain ⟨D, y, hloc, rfl⟩ := Disk.removeFile_ok hr
  obtain ⟨rfl, rfl⟩ := LogSite.locate_join hb hname hloc
  exact Edited.dropName hD (Or.inr hkey)

/-- The active file keeps its name then. -/
theorem Edited.active_of_remove {above : NodeId} {es : List (String × NodeId)} {x : String}
    (h : Edited σ d d' above es (es.filter (fun e => e.1 != x))) (hkey : (σ.log.key? x).isSome)
    (hact : Active σ d i content) : Active σ d' i content := by
  refine h.active hact (fun k hk => ?_)
  rw [Disk.lookup_filter, if_neg (σ.ne_name_of_isSome hkey).symm]
  exact hk

/-- **Setting aside**: the active file becomes an archive. -/
theorem Stock.setAside (h : Stock σ d as) (hact : Active σ d i content) (hperiod : key.period ≠ "")
    (hname : IsName (σ.log.archive key)) (hfree : ∀ a ∈ as, a.key ≠ key)
    (hr : d.rename σ.path (σ.pathOf key) = .ok d') :
    ∃ j, Stock σ d' (as ++ [⟨key, j, i, content⟩]) ∧ ∀ k, d'.entryAt σ.dir σ.name ≠ .ok k := by
  obtain ⟨above, es, hD, hes⟩ := h.entries
  have hkey : σ.log.key? (σ.log.archive key) = some key := LogName.key?_archive _ hperiod
  have hfresh : ∀ e ∈ es, e.1 ≠ σ.log.archive key := by
    intro e he heq
    have hmem : e ∈ es.filter (fun e => (σ.log.key? e.1).isSome) := by
      rw [List.mem_filter]
      exact ⟨he, by rw [heq, hkey]; rfl⟩
    rw [hes] at hmem
    obtain ⟨a, ha, rfl⟩ := List.mem_map.1 hmem
    have hsame := (h.on a ha).fits.key?
    have heq : σ.log.archive a.key = σ.log.archive key := heq
    rw [heq, hkey] at hsame
    exact hfree a ha (Option.some.inj hsame).symm
  obtain ⟨hfits, j, hj, ⟨hk, -⟩ | hedit⟩ := Edited.of_rename h.below hD hperiod hname hr
  · -- no entry has the new name
    obtain ⟨-, hlook⟩ := (Disk.entryAt_eq_ok_iff hD hfits.dots).1 hk
    exact (hfresh _ (Disk.mem_of_lookup hlook) rfl).elim
  obtain ⟨⟨j', hj', hl⟩, hholds⟩ := hact
  obtain rfl : j = j' := by
    rw [hj] at hj'
    exact Except.ok.inj hj'
  refine ⟨j, ⟨hedit.below h.below, ⟨above, _, hedit.after, ?_⟩, ?_, ?_⟩, hedit.gone hfits⟩
  · have hnew : [(σ.log.archive key, j)].filter (fun e => (σ.log.key? e.1).isSome) =
        [(σ.log.archive key, j)] := by
      rw [List.filter_cons, hkey]
      rfl
    rw [List.filter_append, List.map_append, ← hes, hnew,
      σ.filter_key?_filter (fun e he _ => hfresh e (List.mem_of_mem_filter he)),
      σ.filter_key?_filter (fun e _ hsome => σ.ne_name_of_isSome hsome)]
    rfl
  · intro a ha
    rcases List.mem_append.1 ha with ha | ha
    · exact hedit.on (h.on a ha)
    · rw [List.mem_singleton.1 ha]
      obtain ⟨room, hroom⟩ := hholds
      exact ⟨hfits, hl, room, hedit.file hroom⟩
  · refine List.pairwise_append.2 ⟨h.distinct, List.pairwise_singleton _ _, fun a ha b hb => ?_⟩
    rw [List.mem_singleton.1 hb]
    exact hfree a ha

/-- **A new active file** leaves the archives as they are. -/
theorem Stock.create (h : Stock σ d as) (hgone : ∀ k, d.entryAt σ.dir σ.name ≠ .ok k)
    (ho : d.openAppend σ.path = .ok (i, d')) :
    Stock σ d' as ∧ Active σ d' i [] ∧ ∀ a ∈ as, a.file ≠ i := by
  obtain ⟨above, es, hD, hes⟩ := h.entries
  obtain ⟨hedit, hact, hnone⟩ := Edited.of_create h.below hD hgone ho
  refine ⟨⟨hedit.below h.below, ⟨above, _, hedit.after, ?_⟩, fun a ha => hedit.on (h.on a ha), h.distinct⟩,
    hact, fun a ha => (h.on a ha).ne_of_none hnone⟩
  have hnot : [(σ.name, i)].filter (fun e => (σ.log.key? e.1).isSome) = [] := by
    rw [List.filter_cons, σ.key?_name]
    rfl
  rw [List.filter_append, hnot, List.append_nil, ← hes]
  exact σ.filter_key?_filter (fun e _ hsome => σ.ne_name_of_isSome hsome)

/-- **Opening the active file** finds it. -/
theorem Active.openAppend (h : Active σ d i content) (hb : Below σ.base d)
    (ho : d.openAppend σ.path = .ok (k, d')) : k = i ∧ d' = d := by
  obtain ⟨⟨j, hj, hl⟩, room, hroom⟩ := h
  have hw := LogSite.walk_path hb (Disk.walk_singleton_ok_iff.2 ⟨j, hj, hb.land (le_refl _) hl⟩)
  exact Disk.openAppendAt_of_walk hw hroom (Disk.openAppend_ok ho).2

theorem Active.read (h : Active σ d i content) (hb : Below σ.base d) : d.read σ.path = .ok content := by
  obtain ⟨⟨j, hj, hl⟩, room, hroom⟩ := h
  have hw := LogSite.walk_path hb (Disk.walk_singleton_ok_iff.2 ⟨j, hj, hb.land (le_refl _) hl⟩)
  exact Disk.read_ok_iff.2 ⟨σ.text, i, room, hw, hroom⟩

theorem Active.length_eq (h : Active σ d i content) : d.length i = content.length := by
  obtain ⟨room, hroom⟩ := h.holds
  unfold Disk.length
  rw [hroom]

/-- The active file grows. -/
theorem Active.appended {bytes : Bytes} (h : Active σ d i content) (happ : Appended d i bytes d') :
    Active σ d' i (content ++ bytes) := by
  obtain ⟨⟨j, hj, hl⟩, room, hroom⟩ := h
  exact ⟨⟨j, happ.below.entryAt hj, hl⟩, happ.file content room hroom⟩

/-- **Removing an archive** leaves the others and the active file. -/
theorem Stock.remove (h : Stock σ d as) (ha : a ∈ as) (hr : d.removeFile (σ.pathOf a.key) = .ok d') :
    Stock σ d' (as.filter (fun b => b.key ≠ a.key)) ∧ ∀ i content, Active σ d i content →
      Active σ d' i content := by
  obtain ⟨above, es, hD, hes⟩ := h.entries
  have hfits := (h.on a ha).fits
  have hkey : (σ.log.key? (σ.log.archive a.key)).isSome := by rw [hfits.key?]; rfl
  have hedit := Edited.of_remove h.below hD hfits.isName hkey hr
  refine ⟨⟨hedit.below h.below, ⟨above, _, hedit.after, ?_⟩,
    fun b hb => hedit.on (h.on b (List.mem_of_mem_filter hb)), h.distinct.filter _⟩,
    fun i content hact => hedit.active_of_remove hkey hact⟩
  rw [List.filter_filter, List.filter_congr (fun e _ => Bool.and_comm _ _), ← List.filter_filter, hes,
    List.filter_map]
  refine congrArg (List.map _) (List.filter_congr fun b hb => ?_)
  by_cases hsame : b.key = a.key
  · simp [hsame]
  · have hother : σ.log.archive b.key ≠ σ.log.archive a.key := fun heq =>
      hsame (LogName.archive_injective _ heq)
    simp [hsame, hother]

/-- **Removing archives**, one after another. -/
theorem Stock.removeAll (gone : List Kept) (h : Stock σ d as) (hgone : ∀ a ∈ gone, a ∈ as)
    (hdistinct : gone.Pairwise (fun a b => a.key ≠ b.key))
    (hr : RollingFile.removeAll (gone.map (fun a => σ.pathOf a.key)) d = (.ok (), d')) :
    Stock σ d' (as.filter (fun a => a.key ∉ gone.map (·.key))) ∧
      ∀ i content, Active σ d i content → Active σ d' i content := by
  induction gone generalizing as d with
  | nil =>
    cases hr
    simpa using h
  | cons a gone ih =>
    rw [List.map_cons, RollingFile.removeAll] at hr
    split at hr
    · rename_i d₁ hd₁
      obtain ⟨hne, hrest⟩ := List.pairwise_cons.1 hdistinct
      obtain ⟨h₁, hact₁⟩ := h.remove (hgone a List.mem_cons_self) hd₁
      have hmem : ∀ b ∈ gone, b ∈ as.filter (fun b => b.key ≠ a.key) := fun b hb =>
        List.mem_filter.2 ⟨hgone b (List.mem_cons_of_mem a hb), decide_eq_true (hne b hb).symm⟩
      obtain ⟨h₂, hact₂⟩ := ih h₁ hmem hrest hr
      refine ⟨?_, fun i content hact => hact₂ i content (hact₁ i content hact)⟩
      rw [List.filter_filter] at h₂
      have hsame : as.filter (fun b => b.key ∉ (a :: gone).map (·.key)) =
          as.filter (fun b => decide (b.key ∉ gone.map (·.key)) && decide (b.key ≠ a.key)) := by
        refine List.filter_congr fun b _ => ?_
        rw [List.map_cons, ← Bool.decide_and]
        simp only [List.mem_cons, not_or, and_comm]
      rw [hsame]
      exact h₂
    · cases hr

/-- Without the first of them, the rest are left. -/
theorem filter_not_mem_take (n : Nat) (h : as.Pairwise (fun a b => a.key ≠ b.key)) :
    as.filter (fun a => a.key ∉ (as.take n).map (·.key)) = as.drop n := by
  have hsplit := h
  rw [← List.take_append_drop n as, List.pairwise_append] at hsplit
  have hfirst : (as.take n).filter (fun a => a.key ∉ (as.take n).map (·.key)) = [] := by
    rw [List.filter_eq_nil_iff]
    intro a ha
    rw [decide_eq_true_eq, not_not]
    exact List.mem_map_of_mem ha
  have hrest : (as.drop n).filter (fun a => a.key ∉ (as.take n).map (·.key)) = as.drop n := by
    rw [List.filter_eq_self]
    intro a ha
    refine decide_eq_true fun hmem => ?_
    obtain ⟨b, hb, hkey⟩ := List.mem_map.1 hmem
    exact hsplit.2.2 b hb a ha hkey
  calc as.filter (fun a => a.key ∉ (as.take n).map (·.key))
      = (as.take n ++ as.drop n).filter (fun a => a.key ∉ (as.take n).map (·.key)) := by rw [List.take_append_drop]
    _ = as.drop n := by rw [List.filter_append, hfirst, hrest, List.nil_append]

/-- **What is to be removed** are the first archives in the order of the keys. -/
theorem Stock.excess {f : RollingFile} {bs : List Kept} (h : Stock σ d as) (hf : f.At σ) (hperm : bs.Perm as)
    (holder : bs.Pairwise (fun a b => a.key.Older b.key)) :
    f.excess d = .ok ((bs.take (bs.length - f.policy.maxHistory)).map (fun a => σ.pathOf a.key)) := by
  unfold RollingFile.excess
  rw [h.archives hf hperm holder]
  simp [Except.map, List.map_take]

/-- **Pruning** leaves all archives but the first in the order of the keys. -/
theorem Stock.prune {f : RollingFile} {bs : List Kept} (h : Stock σ d as) (hf : f.At σ) (hperm : bs.Perm as)
    (holder : bs.Pairwise (fun a b => a.key.Older b.key)) (hr : f.prune d = (.ok (), d')) :
    Stock σ d' (as.filter (fun a => a.key ∉ (bs.take (bs.length - f.policy.maxHistory)).map (·.key))) ∧
      ∀ i content, Active σ d i content → Active σ d' i content := by
  unfold RollingFile.prune at hr
  rw [h.excess hf hperm holder] at hr
  refine h.removeAll _ (fun a ha => hperm.mem_iff.1 (List.mem_of_mem_take ha)) ?_ hr
  exact (holder.imp fun hab => hab.ne).sublist (List.take_sublist _ _)

/-- **Pruning** keeps the newest archives, as many as the policy says. -/
theorem Shelf.prune {f : RollingFile} (h : Shelf σ d as) (hf : f.At σ)
    (hr : f.prune d = (.ok (), d')) :
    Shelf σ d' (as.drop (as.length - f.policy.maxHistory)) ∧
      ∀ i content, Active σ d i content → Active σ d' i content := by
  obtain ⟨hstock, hact⟩ := h.stock.prune hf (List.Perm.refl as) h.older hr
  rw [filter_not_mem_take _ h.stock.distinct] at hstock
  exact ⟨hstock.shelf (h.older.sublist (List.drop_sublist _ _)), hact⟩

end Parts

/-! ### A log file that is found -/

/-- **A log file that its path leads to**, in a directory with these entries, none of them an archive. -/
structure FoundLog (d : Disk) (path x : String) (D : NodeId) (es : List (String × NodeId)) (i : NodeId)
    (content : Bytes) : Prop where
  ends : EndsIn path x
  text : checkText path = .ok ()
  dirText : checkText (RollingFile.dirOf path) = .ok ()
  walk : d.walk linkLimit (startOf path d.home) (Path.steps path).dropLast = .ok D
  entries : ∃ above, d.node? D = some (.dir above es)
  noArchive : ∀ e ∈ es, LogName.key? ⟨(Path.splitName x).1, (Path.splitName x).2⟩ e.1 = none
  leads : ∃ j, d.entryAt D x = .ok j ∧ d.land linkLimit D j = .ok i
  holds : ∃ room, d.node? i = some (.file content room)

namespace FoundLog

variable {d : Disk} {path x : String} {D : NodeId} {es : List (String × NodeId)} {i : NodeId}
  {content : Bytes}

/-- The name leads to no directory, whichever way it is walked. -/
theorem isLeaf (h : FoundLog d path x D es i content) :
    ∀ m k, d.walk m D [x] = .ok k → d.isDirNode k = false := by
  obtain ⟨j, hj, hl⟩ := h.leads
  obtain ⟨room, hroom⟩ := h.holds
  intro m k hk
  rw [Disk.walk_unique hk (Disk.walk_singleton_ok_iff.2 ⟨j, hj, hl⟩), Bool.eq_false_iff]
  intro hdir
  obtain ⟨above, bs, hnode⟩ := Disk.isDirNode_iff.1 hdir
  rw [hroom] at hnode
  cases hnode

theorem node?_base (h : FoundLog d path x D es i content) :
    ∃ above, (d.dropName D x).node? D = some (.dir above (es.filter (fun e => e.1 != x))) := by
  obtain ⟨above, hD⟩ := h.entries
  exact ⟨above, by rw [Disk.node?_dropName hD, if_pos rfl]⟩

/-- **The place where it was found.** -/
def site (h : FoundLog d path x D es i content) : LogSite where
  base := d.dropName D x
  path := path
  name := x
  dir := D
  ends := h.ends
  text := h.text
  dirText := h.dirText
  walk := by
    obtain ⟨above, hD⟩ := h.entries
    rw [Disk.home_dropName hD]
    exact Disk.walk_dropName_of_isDirNode hD h.isLeaf (Disk.isDirNode_iff.2 ⟨above, es, hD⟩) h.walk
  isDir := by
    obtain ⟨above, hbase⟩ := h.node?_base
    exact Disk.isDirNode_iff.2 ⟨above, _, hbase⟩
  foreign := by
    intro above bs hbs y k hk
    obtain ⟨above', hbase⟩ := h.node?_base
    rw [hbase] at hbs
    cases hbs
    rw [Disk.lookup_filter] at hk
    split at hk
    · cases hk
    · rename_i hyx
      exact ⟨hyx, h.noArchive _ (Disk.mem_of_lookup hk)⟩

theorem shelf (h : FoundLog d path x D es i content) : Shelf h.site d [] := by
  obtain ⟨above, hD⟩ := h.entries
  refine ⟨Disk.below_dropName hD x, ⟨above, es, hD, ?_⟩, by simp, List.Pairwise.nil⟩
  rw [List.map_nil, List.filter_eq_nil_iff]
  intro e he
  have hkey : h.site.log.key? e.1 = none := h.noArchive e he
  simp [hkey]

theorem active (h : FoundLog d path x D es i content) : Active h.site d i content := by
  obtain ⟨above, hD⟩ := h.entries
  obtain ⟨j, hj, hl⟩ := h.leads
  exact ⟨⟨j, hj, Disk.land_dropName hD h.isLeaf hj hl⟩, h.holds⟩

end FoundLog

end ModuleHost
