import Mathlib
import ModuleHost.Proofs.Logging.Directory
import ModuleHost.Proofs.Logging.Neighbours

/-!
# Numbers of archives

The next archive of a period has the number after the largest that is taken. Names in the directory may have been
made by hand, with any number that fits into 64 bits, and after the last of them there is none.

* `Disk.Moves`: an entry that moved to another name while nothing else was lost.
* `LogName.archive_not_mem`: **the next name is free**. `LogName.older_next`: its key is the newest of the period.
* `RollingFile.nothing_overwritten`: **setting the active file aside overwrites nothing**, whatever is in the
  directory.
* `RollingFile.stopped_after_last_number`: but after the last number, no record rolls over any more.
-/

namespace ModuleHost

/-! ### Moving one entry -/

namespace Disk

open ModuleHost.Path (IsName)

/-- **An entry moved to another name**, in the same or in another directory. All others stand for what they stood
for, and files and links are as they were. -/
structure Moves (d d' : Disk) (D : NodeId) (x : String) (T : NodeId) (z : String) : Prop where
  entry : ∃ i, d.entryAt D x = .ok i ∧ d'.entryAt T z = .ok i
  others : ∀ E y j, (E, y) ≠ (D, x) → d.entryAt E y = .ok j → d'.entryAt E y = .ok j
  nodes : ∀ j, d.isDirNode j = false → d'.node? j = d.node? j

variable {d d' : Disk} {D T i j : NodeId} {x y z dir source target : String} {names : List String}

/-- A name that is given to an entry leaves the other entries alone. -/
theorem entryAt_bindName {above : NodeId} {es : List (String × NodeId)} (h : d.node? D = some (.dir above es))
    (hne : i ≠ D ∨ y ≠ x) (hj : d.entryAt i y = .ok j) (k : NodeId) : (d.bindName D x k).entryAt i y = .ok j := by
  obtain ⟨above', es', hi, hy⟩ := entryAt_ok_iff.1 hj
  by_cases hiD : i = D
  · subst hiD
    rw [h] at hi
    obtain ⟨rfl, rfl⟩ : above = above' ∧ es = es' := by simpa using hi
    refine entryAt_ok_iff.2 ⟨above, _, by rw [node?_bindName h, if_pos rfl], ?_⟩
    rw [lookup_bind, if_neg (hne.resolve_left (fun hn => hn rfl))]
    exact hy
  · refine entryAt_ok_iff.2 ⟨above', es', ?_, hy⟩
    rw [node?_bindName h, if_neg hiD]
    exact hi

/-- **Renaming to a free name** moves the entry. -/
theorem moves_of_rename (hsource : d.locate source = .ok (D, some x)) (htarget : d.locate target = .ok (T, some z))
    (hfree : ∀ above es, d.node? T = some (.dir above es) → lookup es z = none)
    (h : d.rename source target = .ok d') : Moves d d' D x T z := by
  obtain ⟨D', x', T', z', i, hsource', htarget', -, hdots, hi, hcase⟩ := rename_ok h
  obtain ⟨rfl, hx⟩ := Prod.mk.inj (Except.ok.inj (hsource'.symm.trans hsource))
  obtain ⟨rfl, hz⟩ := Prod.mk.inj (Except.ok.inj (htarget'.symm.trans htarget))
  obtain rfl := Option.some.inj hx
  obtain rfl := Option.some.inj hz
  obtain ⟨above, es, hT⟩ := isDirNode_iff.1 (locate_ok_iff.1 htarget).2.2.2
  obtain ⟨above', es', hD, -⟩ := entryAt_ok_iff.1 hi
  have hnone := hfree above es hT
  -- nothing had the new name
  have hno (k : NodeId) : d.entryAt T' z' ≠ .ok k := by
    intro hk
    rw [((entryAt_eq_ok_iff hT hdots).1 hk).2] at hnone
    cases hnone
  obtain ⟨hk, -⟩ | ⟨⟨k, hk, -⟩ | hk, rfl⟩ := hcase
  · exact (hno i hk).elim
  · exact (hno k hk).elim
  have hsize := (entryAt_eq_notFound hT hdots hk).1
  -- the directory of the new name, after the old name was dropped
  obtain ⟨above₁, es₁, hT₁⟩ : ∃ above₁ es₁, (d.dropName D' x').node? T' = some (.dir above₁ es₁) := by
    rw [node?_dropName hD]
    by_cases hsame : T' = D'
    · exact ⟨_, _, if_pos hsame⟩
    · exact ⟨_, _, (if_neg hsame).trans hT⟩
  constructor
  case entry =>
    refine ⟨i, hi, (entryAt_eq_ok_iff (by rw [node?_bindName hT₁, if_pos rfl]) hdots).2 ⟨hsize, ?_⟩⟩
    rw [lookup_bind, if_pos rfl]
  case others =>
    intro E y j hne hj
    have hold : E ≠ D' ∨ y ≠ x' := by
      by_contra hboth
      push Not at hboth
      exact hne (by rw [hboth.1, hboth.2])
    have hnew : E ≠ T' ∨ y ≠ z' := by
      by_contra hboth
      push Not at hboth
      rw [hboth.1, hboth.2] at hj
      exact hno j hj
    exact entryAt_bindName hT₁ hnew (entryAt_dropName hD hold hj) i
  case nodes =>
    intro j hj
    rw [node?_bindName hT₁, if_neg (ne_of_isDirNode_eq_false hj hT), node?_dropName hD,
      if_neg (ne_of_isDirNode_eq_false hj hD)]

/-- A name in a listed directory is looked for where the others are. -/
theorem locate_join_of_list (hlist : d.list dir = .ok names) (hname : IsName y)
    (hloc : d.locate (Path.join dir y) = .ok (T, some z)) :
    z = y ∧ d.resolve dir = .ok T ∧ ∃ above es, d.node? T = some (.dir above es) ∧ names = es.map (·.1) := by
  obtain ⟨htext, D, es, hD, hes, rfl⟩ := list_ok_iff.1 hlist
  obtain ⟨-, hz, hT, hdir⟩ := locate_ok_iff.1 hloc
  have hstart : startOf (Path.join dir y) d.home = startOf dir d.home := by
    unfold startOf
    rw [Path.isAbsolute_join hname]
  rw [hstart, Path.steps_join hname, List.dropLast_concat] at hT
  rw [Path.steps_join hname, List.getLast?_concat] at hz
  -- a slash at the end stays where the steps lead
  have hfull : d.walk linkLimit (startOf dir d.home) (fullSteps dir) = .ok T := by
    refine walk_append_ok_iff.2 ⟨T, hT, ?_⟩
    split
    · exact walk_of_solid hdir rfl
    · rfl
  obtain rfl : D = T := walk_unique hD hfull
  obtain ⟨above, hnode⟩ := entries?_eq_some.1 hes
  exact ⟨(Option.some.inj hz).symm, resolve_ok_iff.2 ⟨htext, hfull⟩, above, es, hnode, rfl⟩

end Disk

/-! ### The next number -/

namespace LogName

variable {n : LogName} {period : String} {names : List String} {index : UInt64}

/-- **The next archive is newer** than all archives of its period. -/
theorem older_next (hnext : n.nextIndex period names = some index) {name : String} {k : ArchiveKey}
    (hname : name ∈ names) (hkey : n.key? name = some k) (hk : k.period = period) : k.Older ⟨period, index⟩ := by
  obtain ⟨p, i⟩ := k
  obtain rfl : p = period := hk
  exact Or.inr ⟨rfl, lt_of_nextIndex hnext ⟨name, hname, hkey⟩⟩

/-- **The next name is free**: what had it would have the number. -/
theorem archive_not_mem (hperiod : period ≠ "") (hnext : n.nextIndex period names = some index) :
    n.archive ⟨period, index⟩ ∉ names := fun hmem =>
  (older_next hnext hmem (n.key?_archive hperiod) rfl).ne rfl

end LogName

/-! ### Setting aside -/

namespace RollingFile

open LogName (lastIndex)

variable {f : RollingFile} {d : Disk} {x : String} {names : List String} {index : UInt64}

/-- **Setting the active file aside** moves it to the next name, which is free, and loses nothing. -/
theorem moves_setAside (h : f.Opened x) (hlist : d.list f.dir = .ok names)
    (hnext : f.name.nextIndex f.period names = some index) :
    (f.setAside d).2 = d ∨ ∃ D T, d.locate f.path = .ok (D, some x) ∧ d.resolve f.dir = .ok T ∧
      d.Moves (f.setAside d).2 D x T (f.name.archive ⟨f.period, index⟩) := by
  have hname := h.isName_archive index
  unfold setAside
  split
  · exact Or.inl rfl
  rw [nextArchive_of_nextIndex hlist hnext]
  simp only
  split
  · exact Or.inl rfl
  rename_i d' hrename
  obtain ⟨D, x', T, z, -, hsource, hlocate, -⟩ := Disk.rename_ok hrename
  obtain ⟨rfl, hresolve, above, es, hT, rfl⟩ := Disk.locate_join_of_list hlist hname hlocate
  have hx : x' = x := by
    have hlast := (Disk.locate_ok_iff.1 hsource).2.1
    rw [h.ends.steps] at hlast
    exact (Option.some.inj hlast).symm
  subst hx
  refine Or.inr ⟨D, T, hsource, hresolve, Disk.moves_of_rename hsource hlocate ?_ hrename⟩
  intro above' es' hT'
  rw [hT] at hT'
  cases hT'
  by_contra hsome
  obtain ⟨k, hk⟩ := Option.ne_none_iff_exists'.1 hsome
  exact LogName.archive_not_mem h.period_ne_empty hnext (List.mem_map_of_mem (Disk.mem_of_lookup hk))

/-- Without a next number, the active file is not set aside, unless it is empty and need not be. -/
theorem setAside_of_none (hlist : d.list f.dir = .ok names) (hnext : f.name.nextIndex f.period names = none) :
    f.setAside d = (if f.size = 0 then .ok () else .error .overflow, d) := by
  unfold setAside
  rw [nextArchive_of_none hlist hnext]
  split <;> rfl

/-- **Nothing is overwritten.** Take any log name, any period, and any names in the directory. There is a next
number unless the last one is taken. Then what is made of it is read back as its key, which is newer than those of
all archives of the period, and it is no name in the directory. A log file that is opened in such a directory
gives its active file this name, or fails, and nothing else on the disk changes its name or what it holds. And
where the last number is taken, a file that would have to be set aside stops the thread, and nothing on the disk
changes. -/
theorem nothing_overwritten (n : LogName) {period : String} (hperiod : period ≠ "") (names : List String) :
    (n.nextIndex period names = none ↔ n.HasNumber period names lastIndex) ∧
    (∀ index, n.nextIndex period names = some index →
      n.key? (n.archive ⟨period, index⟩) = some ⟨period, index⟩ ∧ n.archive ⟨period, index⟩ ∉ names ∧
      ∀ name ∈ names, ∀ k, n.key? name = some k → k.period = period → k.Older ⟨period, index⟩) ∧
    ∀ (f : RollingFile) (x : String) (d : Disk), f.Opened x → f.name = n → f.period = period →
      d.list f.dir = .ok names →
      (∀ index, n.nextIndex period names = some index →
        f.nextArchive d = .ok (Path.join f.dir (n.archive ⟨period, index⟩)) ∧
          ((f.setAside d).2 = d ∨ ∃ D T, d.locate f.path = .ok (D, some x) ∧ d.resolve f.dir = .ok T ∧
            d.Moves (f.setAside d).2 D x T (n.archive ⟨period, index⟩))) ∧
      (n.nextIndex period names = none →
        f.setAside d = (if f.size = 0 then .ok () else .error .overflow, d)) := by
  refine ⟨LogName.nextIndex_eq_none_iff, fun index hnext => ?_, ?_⟩
  · exact ⟨n.key?_archive hperiod, LogName.archive_not_mem hperiod hnext,
      fun name hname k hkey hk => LogName.older_next hnext hname hkey hk⟩
  · rintro f x d hopened rfl rfl hlist
    refine ⟨fun index hnext => ?_, setAside_of_none hlist⟩
    exact ⟨nextArchive_of_nextIndex hlist hnext, moves_setAside hopened hlist hnext⟩

/-- `host.log` beside an archive whose number was written by hand. The next one has the number after it. -/
theorem nothing_overwritten_by_hand :
    let t₀ : Instant := ⟨1792231200, 0, 0⟩
    let names := ["host.log", "host.2026-10-17.+007.log"]
    let disk := Disk.working (names.zip [4, 5]) [.file [1] none, .file [2] none]
    ∃ f d, openAt "host.log" ⟨64, 7, .daily⟩ true t₀ t₀ disk = (.ok f, d) ∧
      f.nextArchive d = .ok "./host.2026-10-17.8.log" ∧
      ∃ D T x, d.Moves (f.setAside d).2 D x T "host.2026-10-17.8.log" := by
  intro t₀ names disk
  let o := openAt "host.log" ⟨64, 7, .daily⟩ true t₀ t₀ disk
  have hall : o.1.toOption.any (fun f =>
      f.period ≠ "" ∧ o.2.list f.dir = .ok names ∧ f.name.nextIndex f.period names = some 8 ∧
        f.name.archive ⟨f.period, 8⟩ = "host.2026-10-17.8.log" ∧
        Path.join f.dir "host.2026-10-17.8.log" = "./host.2026-10-17.8.log" ∧
        (f.setAside o.2).2 ≠ o.2) = true := by
    decide +kernel
  obtain ⟨f, hf, hall⟩ := (Option.any_eq_true _ _).1 hall
  obtain ⟨hperiod, hlist, hindex, harchive, hjoin, hmoved⟩ := of_decide_eq_true hall
  have hopen : o = (.ok f, o.2) := Prod.ext (Track.ok_of_toOption hf) rfl
  obtain ⟨x, hopened, -⟩ := opened_of_openAt hopen
  obtain ⟨-, -, hdisk⟩ := nothing_overwritten f.name hperiod names
  obtain ⟨hnext, hsame | ⟨D, T, -, -, hmoves⟩⟩ := (hdisk f x o.2 hopened rfl rfl hlist).1 8 hindex
  · exact (hmoved hsame).elim
  · rw [harchive] at hnext hmoves
    rw [hjoin] at hnext
    exact ⟨f, o.2, hopen, hnext, D, T, x, hmoves⟩

/-- **No record rolls over after the last number.** There is an archive with the last number, made by hand, and
one with the number before it. When the next day begins and `host.log` should be set aside, the number after the
last one is no 64-bit word: no next archive is found, and the thread is stopped on its way. -/
theorem stopped_after_last_number :
    let t₀ : Instant := ⟨1792231200, 0, 0⟩
    let t₁ : Instant := ⟨1792317600, 0, 0⟩
    let before := "host.2026-10-17.18446744073709551614.log"
    let last := "host.2026-10-17.18446744073709551615.log"
    let disk := Disk.working [("host.log", 4), (before, 5), (last, 6)]
        [.file [1] none, .file [2] none, .file [3] none]
    ∃ f d, openAt "host.log" ⟨64, 7, .daily⟩ true t₀ t₀ disk = (.ok f, d) ∧
      d.list f.dir = .ok ["host.log", before, last] ∧
      f.nextArchive d = .error .overflow ∧ (f.write [4] t₁ d).1 = .error .overflow ∧
        (f.write [4] t₁ d).2.2 = d := by
  intro t₀ t₁ before last disk
  let n := LogName.ofName "host.log"
  let names := ["host.log", before, last]
  let o := openAt "host.log" ⟨64, 7, .daily⟩ true t₀ t₀ disk
  have hall : o.1.toOption.any (fun f =>
      f.closed = false ∧ f.rolls [4] t₁ = true ∧ f.name = n ∧ f.period = "2026-10-17" ∧ f.size ≠ 0 ∧
        o.2.list f.dir = .ok names ∧ f.settle o.2 = (.ok (), { f with writer := none }, o.2)) = true := by
    decide +kernel
  obtain ⟨f, hf, hall⟩ := (Option.any_eq_true _ _).1 hall
  obtain ⟨hopened, hrolls, hname, hperiod, hsize, hlist, hsettle⟩ := of_decide_eq_true hall
  have htaken : n.HasNumber "2026-10-17" names lastIndex := ⟨last, by simp [names], by decide +kernel⟩
  have hnone : f.name.nextIndex f.period names = none := by
    rw [hname, hperiod]
    exact LogName.nextIndex_eq_none_iff.2 htaken
  have haside : { f with writer := none }.setAside o.2 = (.error .overflow, o.2) := by
    rw [setAside_of_none (f := { f with writer := none }) hlist hnone, if_neg hsize]
  have hrenew : f.renew (f.policy.rotation.period t₁) o.2 =
      (.error .overflow, { f with writer := none }, o.2) := by
    unfold renew
    simp only [hsettle, haside]
  have hwrite := write_of_roll_error hopened hrolls (roll_of_renew_error hrenew)
  exact ⟨f, o.2, Prod.ext (Track.ok_of_toOption hf) rfl, hlist, nextArchive_of_none hlist hnone, by rw [hwrite],
    by rw [hwrite]⟩

end RollingFile

end ModuleHost
