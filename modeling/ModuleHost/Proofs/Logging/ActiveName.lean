import Mathlib
import ModuleHost.Proofs.Logging.Neighbours

/-!
# The active file among its archives

The active file and its archives are in one directory, and a log file tells them apart by their names alone. What
is made for an archive says its period and its number, whatever the stem, the extension and the period are made
of, and it is never the name of the active file.

* `RollingFile.Apart`: what a log file keeps apart on a disk.
* `RollingFile.Opened.apart`: an opened log file keeps its active file and its archives apart on every disk.
* `RollingFile.told_apart`: **keys are read back from the names made of them, and the active file has no key**.
-/

namespace ModuleHost

namespace LogName

/-- The name of an archive has a digit, so it is no step to a directory itself or above. -/
theorem not_isDots_archive (n : LogName) (k : ArchiveKey) : Disk.isDots (n.archive k) = false := by
  obtain ⟨c, hc⟩ := List.exists_mem_of_ne_nil _ (Nat.toDigits_ne_nil (b := 10) (n := k.index.toNat))
  have hdigit := Nat.isDigit_of_mem_toDigits (by decide) (by decide) hc
  have hmem : c ∈ (n.archive k).toList := by
    rw [toList_archive]
    simp [hc]
  unfold Disk.isDots
  rw [Bool.or_eq_false_iff, beq_eq_false_iff_ne, beq_eq_false_iff_ne]
  constructor <;>
  · intro hdots
    obtain rfl : c = '.' := by simpa [hdots] using hmem
    cases hdigit

end LogName

namespace RollingFile

variable {f : RollingFile} {d : Disk} {x : String}

/-- **The active file and the archives are kept apart** on a disk. The name printed for the next archive is read
back as its period and number, and none is printed if there is no next number. The active file is not listed as an
archive. When the oldest archives were removed, or could not be, its name still stands for what it stood for, in
every directory, and all files hold what they held. -/
structure Apart (f : RollingFile) (d : Disk) : Prop where
  printed : ∀ names, d.list f.dir = .ok names →
    match f.name.nextIndex f.period names with
    | some index => ∃ target name, f.nextArchive d = .ok target ∧ Path.fileName? target = some name ∧
        f.name.key? name = some ⟨f.period, index⟩
    | none => f.nextArchive d = .error .overflow
  listed : ∀ paths, f.archives d = .ok paths → Path.join f.dir f.name.text ∉ paths
  kept : ∀ D i, d.entryAt D f.name.text = .ok i → (f.prune d).2.entryAt D f.name.text = .ok i
  held : ∀ i, d.isDirNode i = false → (f.prune d).2.node? i = d.node? i

/-- The next archive has the name made of its key. -/
theorem Opened.fileName?_nextArchive (h : f.Opened x) (i : UInt64) :
    Path.fileName? (Path.join f.dir (f.name.archive ⟨f.period, i⟩)) = some (f.name.archive ⟨f.period, i⟩) :=
  (Path.endsIn_join (h.isName_archive i) (f.name.not_isDots_archive _)).fileName?_eq

/-- **Pruning keeps the entry of the active file**, since it goes by the names of archives only. -/
theorem Opened.entryAt_prune (h : f.Opened x) (hp : d.Proper) {D i : NodeId} (hi : d.entryAt D x = .ok i) :
    (f.prune d).2.entryAt D x = .ok i := by
  have hspares : Disk.Spares f.name.Takes d (f.prune d).2 := spares_prune hp (fun _ htakes => htakes)
  have hfree : ¬ f.name.Takes x := h.text ▸ f.name.not_takes_text
  obtain ⟨above, es, hD, -⟩ := Disk.entryAt_ok_iff.1 hi
  obtain ⟨hsize, hlook⟩ := (Disk.entryAt_eq_ok_iff hD h.ends.dots).1 hi
  obtain ⟨es', hD', hes'⟩ := hspares.dirs hD
  exact (Disk.entryAt_eq_ok_iff hD' h.ends.dots).2 ⟨hsize, hes' x i hfree hlook⟩

theorem node?_removeAll {paths : List String} {i : NodeId} (hi : d.isDirNode i = false) :
    (removeAll paths d).2.node? i = d.node? i := by
  induction paths generalizing d with
  | nil => rfl
  | cons p ps ih =>
    unfold removeAll
    split
    · rename_i d₁ hremove
      have hsame := Disk.node?_removeFile hremove hi
      have hi₁ : d₁.isDirNode i = false := by
        unfold Disk.isDirNode Disk.entries? at hi ⊢
        rw [hsame]
        exact hi
      rw [ih hi₁, hsame]
    · rfl

/-- **Pruning changes no file**, it only takes names away. -/
theorem node?_prune (f : RollingFile) {i : NodeId} (hi : d.isDirNode i = false) :
    (f.prune d).2.node? i = d.node? i := by
  unfold prune
  split
  · rfl
  · exact node?_removeAll hi

/-- **An opened log file keeps its active file and its archives apart**, whatever else is on the disk. -/
theorem Opened.apart (h : f.Opened x) (hp : d.Proper) : f.Apart d := by
  constructor
  case printed =>
    intro names hlist
    cases hnext : f.name.nextIndex f.period names with
    | none => exact nextArchive_of_none hlist hnext
    | some index =>
      exact ⟨_, _, nextArchive_of_nextIndex hlist hnext, h.fileName?_nextArchive index,
        f.name.key?_archive h.period_ne_empty⟩
  case listed =>
    intro paths hpaths hmem
    obtain ⟨names, -, hnames⟩ := mem_archives_iff hpaths
    obtain ⟨y, -, htakes, hy⟩ := (hnames _).1 hmem
    exact f.name.not_takes_text (join_injective hy ▸ htakes)
  case kept =>
    intro D i hi
    rw [h.text] at hi ⊢
    exact h.entryAt_prune hp hi
  case held => exact fun i hi => f.node?_prune hi

/-- **Archives are told apart by their names, and from the active file.** Take any stem and any extension or none.
The name of an archive is read back as its key, for every number and every period that is not empty; archives with
keys of their own have names of their own; and the name of the log file itself has no key. So a log file that is
opened under this name keeps the active file apart from the archives, whatever was written to it since and
whatever is on the disk. -/
theorem told_apart (n : LogName) :
    (∀ k : ArchiveKey, k.period ≠ "" → n.key? (n.archive k) = some k) ∧ Function.Injective n.archive ∧
    n.key? n.text = none ∧
    ∀ path policy immediateFlush now modified d₀ f d₁,
      openAt path policy immediateFlush now modified d₀ = (.ok f, d₁) → f.name = n →
        Path.fileName? path = some n.text ∧
        ∀ records d, d.Proper → (writeEach records f d₁).1.name = n ∧ (writeEach records f d₁).1.Apart d := by
  refine ⟨fun k hk => n.key?_archive hk, n.archive_injective, n.key?_text, ?_⟩
  rintro path policy immediateFlush now modified d₀ f d₁ hopen rfl
  obtain ⟨x, hopened, rfl, -⟩ := opened_of_openAt hopen
  refine ⟨?_, fun records d hp => ⟨?_, (hopened.writeEach records d₁).apart hp⟩⟩
  · rw [hopened.text]
    exact hopened.ends.fileName?_eq
  · rw [(hopened.writeEach records d₁).name, hopened.name]

/-- The file `host.1.1` has the stem `host.1` and the extension `1`. A period that is made like the stem is read
back from between them, and the file that is opened keeps itself apart after two records on different days. -/
theorem told_apart_nested :
    let t₀ : Instant := ⟨1792231200, 0, 0⟩
    let t₁ : Instant := ⟨1792317600, 0, 0⟩
    let n : LogName := ⟨"host.1", some "1"⟩
    let k : ArchiveKey := ⟨"host.1", 1⟩
    let records : List (Bytes × Instant) := [([1, 1, 1], t₀), ([2, 2, 2], t₁)]
    k.period ≠ "" ∧ n.archive k = "host.1.host.1.1.1" ∧ n.key? "host.1.host.1.1.1" = some k ∧
    n.key? "host.1.1" = none ∧
    ∃ f d₁, openAt "host.1.1" ⟨4, 0, .daily⟩ true t₀ t₀ Disk.empty = (.ok f, d₁) ∧ f.name = n ∧
      Path.fileName? "host.1.1" = some n.text ∧
      (writeEach records f d₁).2.Proper ∧ (writeEach records f d₁).1.Apart (writeEach records f d₁).2 := by
  intro t₀ t₁ n k records
  let o := openAt "host.1.1" ⟨4, 0, .daily⟩ true t₀ t₀ Disk.empty
  have hall : o.1.toOption.any (fun f => f.name = n) = true := by decide +kernel
  obtain ⟨f, hf, hname⟩ := (Option.any_eq_true _ _).1 hall
  have hopen : o = (.ok f, o.2) := Prod.ext (Track.ok_of_toOption hf) rfl
  obtain ⟨x, hopened, -, -, hspares⟩ := opened_of_openAt hopen
  have hproper := hspares.proper Disk.proper_empty
  have hafter := (spares_writeEach hopened hproper records).1.proper hproper
  obtain ⟨hkey, -, hown, hrun⟩ := told_apart n
  obtain ⟨hfile, hapart⟩ := hrun _ _ _ _ _ _ _ _ hopen (of_decide_eq_true hname)
  have harchive : n.archive k = "host.1.host.1.1.1" := by decide +kernel
  have htext : n.text = "host.1.1" := by decide +kernel
  have hperiod : k.period ≠ "" := by decide
  exact ⟨hperiod, harchive, harchive ▸ hkey k hperiod, htext ▸ hown, f, o.2, hopen, of_decide_eq_true hname, hfile,
    hafter, (hapart records _ hafter).2⟩

end RollingFile

end ModuleHost
