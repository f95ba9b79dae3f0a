import Mathlib
import ModuleHost.Proofs.Logging.Stand

/-!
# What is filed where

The records of a log are written one after another, and rolls cut their sequence into stretches. A stretch is what
goes into one file: it is of one period, and not larger than the limit if that can be helped. The clock may go
back; then a period comes again, and the archives are not in the order of the stretches.

* `Stretch`: what a file held when it was begun, and the records after that.
* `Filing`: the stretches up to now, and the archives and the active file that have them.
* `Filing.stay`, `Filing.cut`: a record in the file, and one that begins another.
* `Track.filed`: **every archive is a stretch of one period, none takes another's place, and a file beyond the
  limit is a single record or what was found.**
-/

namespace ModuleHost

/-- **A stretch of a log**: the period, what the file held when it was begun, and the records written to it since,
with their times. -/
structure Stretch where
  period : String
  found : Bytes
  records : List (Bytes × Instant) := []
  deriving DecidableEq

namespace Stretch

variable {x : Stretch} {e : Bytes × Instant} {limit : Nat} {rotation : Rotation}

/-- What a file holds after a stretch. -/
def content (x : Stretch) : Bytes :=
  x.found ++ (x.records.map (·.1)).flatten

/-- The stretch with one record more. -/
def add (x : Stretch) (e : Bytes × Instant) : Stretch :=
  { x with records := x.records ++ [e] }

/-- **All records are of the period.** -/
def Uniform (rotation : Rotation) (x : Stretch) : Prop :=
  ∀ e ∈ x.records, rotation.period e.2 = x.period

/-- **Not larger than the limit**, but for what was found, or for a single record with nothing before it. -/
def Within (limit : Nat) (x : Stretch) : Prop :=
  x.content.length ≤ limit ∨ x.records = [] ∨
    x.found = [] ∧ ∃ before e, x.records = before ++ [e] ∧ ∀ b ∈ before, b.1 = []

theorem content_add (x : Stretch) (e : Bytes × Instant) : (x.add e).content = x.content ++ e.1 := by
  simp [content, add]

theorem content_single (p : String) (e : Bytes × Instant) :
    content { period := p, found := [], records := [e] } = e.1 := by
  simp [content]

theorem Uniform.add (h : x.Uniform rotation) (he : rotation.period e.2 = x.period) :
    (x.add e).Uniform rotation := by
  intro e' he'
  rcases List.mem_append.1 he' with he' | he'
  · exact h e' he'
  · rw [List.mem_singleton.1 he']
    exact he

/-- A record may come if there is room for it, or nothing before it. -/
theorem within_add (h : x.content = [] ∨ x.content.length + e.1.length ≤ limit) : (x.add e).Within limit := by
  rcases h with hnil | hroom
  · obtain ⟨hfound, hrecords⟩ := List.append_eq_nil_iff.1 hnil
    refine Or.inr (Or.inr ⟨hfound, x.records, e, rfl, fun b hb => ?_⟩)
    exact List.flatten_eq_nil_iff.1 hrecords b.1 (List.mem_map_of_mem hb)
  · left
    rw [content_add, List.length_append]
    exact hroom

end Stretch

/-- **The stretches of a log**, those before and the one of the active file. The archives made are those of the
stretches before that are not empty; what was not removed of them is still there. Only the first stretch found
something. -/
structure Filing (σ : LogSite) (policy : RollingPolicy) (initial : Bytes) (s : Track) (as : List Kept)
    (before : List Stretch) (active : Stretch) : Prop where
  keeping : Keeping σ s.file s.disk as active.content
  size : s.file.size = active.content.length
  samePolicy : s.file.policy = policy
  clock : ∃ t, s.file.period = policy.rotation.period t
  period : active.period = s.file.period
  made : List.Forall₂ (fun x item => ∃ index, item = (σ.pathOf ⟨x.period, index⟩, x.content))
    (before.filter (fun x => x.content ≠ [])) s.made
  left : s.made.Perm (s.removed ++ as.map (fun a => a.item σ))
  index : ∀ a ∈ as, a.key.index.toNat < s.made.length
  uniform : ∀ x ∈ before ++ [active], x.Uniform policy.rotation
  within : ∀ x ∈ before ++ [active], x.Within policy.maxSize
  found : (before ++ [active]).map (·.found) = initial :: List.replicate before.length []

namespace Filing

variable {σ : LogSite} {policy : RollingPolicy} {initial record : Bytes} {s s' : Track} {as : List Kept}
  {before : List Stretch} {active : Stretch} {now : Instant} {f f₁ : RollingFile} {d d₁ : Disk}

/-- **A record of the same period**, for which there is room, goes on with the stretch. -/
theorem stay (h : Filing σ policy initial s as before active)
    (hrolls : s.file.rolls record now = false) (hsame : policy.rotation.period now = s.file.period)
    (hr : s.file.appendRecord record s.disk = (.ok (), f, d)) :
    Filing σ policy initial { s with file := f, disk := d } as before (active.add (record, now)) := by
  obtain ⟨hkeeping, hsize, hpolicy, hperiod⟩ := h.keeping.append hr
  -- the file was empty, or there was room
  have hroom : active.content = [] ∨ active.content.length + record.length ≤ policy.maxSize := by
    unfold RollingFile.rolls RollingFile.mustRoll at hrolls
    rw [h.keeping.notClosed, h.samePolicy, h.size] at hrolls
    simp only [Bool.not_false, Bool.true_and, Bool.or_eq_false_iff, Bool.and_eq_false_iff,
      decide_eq_false_iff_not, not_lt, Nat.le_zero, List.length_eq_zero_iff] at hrolls
    exact hrolls.2
  constructor
  case keeping =>
    rw [Stretch.content_add]
    exact hkeeping
  case size =>
    show f.size = _
    rw [hsize, h.size, Stretch.content_add, List.length_append]
  case samePolicy => exact hpolicy.trans h.samePolicy
  case clock =>
    obtain ⟨t, ht⟩ := h.clock
    exact ⟨t, hperiod.trans ht⟩
  case period => exact h.period.trans hperiod.symm
  case made => exact h.made
  case left => exact h.left
  case index => exact h.index
  case uniform =>
    obtain ⟨hbefore, hactive⟩ := List.forall_mem_append.1 h.uniform
    refine List.forall_mem_append.2 ⟨hbefore, List.forall_mem_singleton.2 ?_⟩
    exact (List.forall_mem_singleton.1 hactive).add (hsame.trans h.period.symm)
  case within =>
    obtain ⟨hbefore, -⟩ := List.forall_mem_append.1 h.within
    exact List.forall_mem_append.2 ⟨hbefore, List.forall_mem_singleton.2 (Stretch.within_add hroom)⟩
  case found =>
    have hfound := h.found
    rw [List.map_append] at hfound ⊢
    exact hfound

/-- **A record that rolls over** begins a stretch of its own. What came before is in an archive, if it is not
empty. -/
theorem cut (h : Filing σ policy initial s as before active) (hm : s.made.length < UInt64.size)
    (hroll : s.file.roll (policy.rotation.period now) s.disk = (.ok (), f₁, d₁))
    (hr : f₁.appendRecord record d₁ = (.ok (), f, d)) :
    ∃ as', Filing σ policy initial
      { file := f
        disk := d
        made := s.made ++ s.file.archiveMade s.disk
        removed := s.removed ++ s.file.archivesRemoved (policy.rotation.period now) s.disk }
      as' (before ++ [active])
      { period := policy.rotation.period now
        found := []
        records := [(record, now)] } := by
  have hclock : ∃ t, s.file.period = s.file.policy.rotation.period t := by
    rw [h.samePolicy]
    exact h.clock
  obtain ⟨new, kept, gone, rest, hperm, hkeeping, hzero, hpolicy, hperiod, hmade, hremoved, hmoved, hnew, -⟩ :=
    h.keeping.roll hm hclock h.index hroll
  obtain ⟨hkeeping', hsize', hpolicy', hperiod'⟩ := hkeeping.append hr
  -- nothing is left in the file, and what was in it is in the new archive
  obtain ⟨rfl, hset⟩ : rest = [] ∧ (active.content = [] ∧ new = [] ∨
      active.content ≠ [] ∧ ∃ a, new = [a] ∧ a.content = active.content) := by
    rcases hmoved with ⟨hempty, hnone, rfl⟩ | ⟨hsome, rfl, hone⟩
    · have hnil : active.content = [] := List.length_eq_zero_iff.1 (h.size.symm.trans hempty)
      exact ⟨hnil, Or.inl ⟨hnil, hnone⟩⟩
    · refine ⟨rfl, Or.inr ⟨fun hnil => hsome ?_, ?_⟩⟩
      · rw [h.size, hnil]
        rfl
      · obtain ⟨a, rfl, ha⟩ := List.map_eq_singleton_iff.1 hone
        exact ⟨a, rfl, ha⟩
  refine ⟨kept, ?_⟩
  constructor
  case keeping =>
    rw [Stretch.content_single]
    exact hkeeping'
  case size =>
    show f.size = _
    rw [hsize', hzero, Stretch.content_single, Nat.zero_add]
  case samePolicy => exact hpolicy'.trans (hpolicy.trans h.samePolicy)
  case clock => exact ⟨now, hperiod'.trans hperiod⟩
  case period => exact (hperiod'.trans hperiod).symm
  case made =>
    rw [List.filter_append, hmade]
    refine List.rel_append h.made ?_
    rcases hset with ⟨hnil, rfl⟩ | ⟨hne, a, rfl, ha⟩
    · rw [List.filter_cons_of_neg (by simpa using hnil)]
      exact .nil
    · rw [List.filter_cons_of_pos (by simpa using hne)]
      refine .cons ⟨a.key.index, ?_⟩ .nil
      rw [h.period, ← (hnew a List.mem_cons_self).1, ← ha]
      rfl
  case left =>
    have hitems : ((kept ++ gone).map (fun a => a.item σ)).Perm ((as ++ new).map (fun a => a.item σ)) :=
      hperm.map _
    rw [List.map_append, List.map_append] at hitems
    show (s.made ++ _).Perm ((s.removed ++ _) ++ _)
    rw [hmade, hremoved]
    calc s.made ++ new.map (fun a => a.item σ)
        |>.Perm (s.removed ++ as.map (fun a => a.item σ) ++ new.map (fun a => a.item σ)) := h.left.append_right _
      _ = s.removed ++ (as.map (fun a => a.item σ) ++ new.map (fun a => a.item σ)) := List.append_assoc _ _ _
      _ |>.Perm (s.removed ++ (kept.map (fun a => a.item σ) ++ gone.map (fun a => a.item σ))) :=
        hitems.symm.append_left _
      _ |>.Perm (s.removed ++ (gone.map (fun a => a.item σ) ++ kept.map (fun a => a.item σ))) :=
        List.perm_append_comm.append_left _
      _ = s.removed ++ gone.map (fun a => a.item σ) ++ kept.map (fun a => a.item σ) :=
        (List.append_assoc _ _ _).symm
  case index =>
    intro a ha
    show _ < (s.made ++ _).length
    rw [List.length_append, hmade, List.length_map]
    rcases List.mem_append.1 (hperm.subset (List.mem_append_left _ ha)) with ha | ha
    · have hlt := h.index a ha
      omega
    · have hle := (hnew a ha).2
      have hpos := List.length_pos_of_mem ha
      omega
  case uniform =>
    refine List.forall_mem_append.2 ⟨h.uniform, List.forall_mem_singleton.2 fun e he => ?_⟩
    rw [List.mem_singleton.1 he]
  case within =>
    have hnil : (Stretch.content { period := policy.rotation.period now, found := [] }) = [] := rfl
    exact List.forall_mem_append.2 ⟨h.within, List.forall_mem_singleton.2 (Stretch.within_add (Or.inl hnil))⟩
  case found =>
    rw [List.map_append, h.found, List.length_append, List.length_singleton, List.replicate_succ']
    rfl

/-- **A record** comes last. -/
theorem write (h : Filing σ policy initial s as before active) (hm : s.made.length < UInt64.size)
    (ht : s.take (.write record now) = .ok s') :
    ∃ as' before' active', Filing σ policy initial s' as' before' active' ∧
      before'.flatMap (·.records) ++ active'.records =
        before.flatMap (·.records) ++ active.records ++ [(record, now)] := by
  have hcases := Track.take_write_ok h.keeping.notClosed ht
  rw [h.samePolicy] at hcases
  rcases hcases with ⟨hrolls, hsame, f, d, hr, rfl⟩ | ⟨-, f₁, d₁, f, d, hroll, hr, rfl⟩
  · exact ⟨as, before, _, h.stay hrolls hsame hr, (List.append_assoc _ _ _).symm⟩
  · obtain ⟨as', h'⟩ := h.cut hm hroll hr
    exact ⟨as', _, _, h', by simp⟩

/-- **Any records**, at any times. -/
theorem run {writes : List (Bytes × Instant)} (h : Filing σ policy initial s as before active)
    (hm : s'.made.length < UInt64.size) (hr : s.run (writes.map (fun e => .write e.1 e.2)) = .ok s') :
    ∃ as' before' active', Filing σ policy initial s' as' before' active' ∧
      before'.flatMap (·.records) ++ active'.records = before.flatMap (·.records) ++ active.records ++ writes := by
  induction writes generalizing s as before active with
  | nil =>
    cases hr
    exact ⟨as, before, active, h, (List.append_nil _).symm⟩
  | cons e writes ih =>
    obtain ⟨s₁, ht, hr⟩ := Track.run_cons_ok_iff.1 hr
    -- no more archives were made before than in the end
    have hm₁ : s.made.length < UInt64.size :=
      ((Track.made_le_of_take ht).trans (Track.made_le_of_run hr)).trans_lt hm
    obtain ⟨as₁, before₁, active₁, h₁, hall₁⟩ := h.write hm₁ ht
    obtain ⟨as', before', active', h', hall'⟩ := ih h₁ hr
    refine ⟨as', before', active', h', ?_⟩
    rw [hall', hall₁, List.append_assoc]
    rfl

end Filing

namespace Track

/-- **Each log file holds one period within the limit.** A log file is opened in a directory that has no archives
of it, and holds `initial`. Then come any records at any times, none of which fails; the clock may go back. In the
order in which they were written, the records fall into stretches, and only the first of these goes on with what
was found. Each stretch is of one period. It is not larger than the limit, or it is what was found, or a single
record with nothing before it. The archives made are the stretches before the last, without those that are empty,
each named by its period, and what was not removed of them is in the directory, each at a path of its own. The
last stretch is in the active file and its buffer, and the size that is counted is that of both. The numbers of
archives are 64-bit words, so there is a limit to how many can be made, but none to the records. -/
theorem filed {path : String} {policy : RollingPolicy} {immediateFlush : Bool} {now modified : Instant}
    {d d₀ : Disk} {f : RollingFile} {initial : Bytes} {writes : List (Bytes × Instant)} {s : Track}
    (hopen : RollingFile.openAt path policy immediateFlush now modified d = (.ok f, d₀))
    (hnone : f.archives d₀ = .ok []) (hinitial : d₀.read path = .ok initial)
    (hrun : run { file := f, disk := d₀ } (writes.map (fun e => .write e.1 e.2)) = .ok s)
    (hcount : s.made.length < UInt64.size) :
    ∃ (before : List Stretch) (active : Stretch),
      (before ++ [active]).flatMap (·.records) = writes ∧
      (before ++ [active]).map (·.found) = initial :: List.replicate before.length [] ∧
      (∀ x ∈ before ++ [active], x.Uniform policy.rotation ∧ x.Within policy.maxSize) ∧
      List.Forall₂ (fun x item => ∃ index, item = (Path.join f.dir (f.name.archive ⟨x.period, index⟩), x.content))
        (before.filter (fun x => x.content ≠ [])) s.made ∧
      (∃ paths contents, s.file.archives s.disk = .ok paths ∧ paths.Nodup ∧
        paths.map s.disk.read = contents.map .ok ∧ s.made.Perm (s.removed ++ paths.zip contents)) ∧
      active.period = s.file.period ∧
      ∃ w written, s.file.writer = some w ∧ s.disk.read path = .ok written ∧ written ++ w.buffer = active.content ∧
        s.file.size = written.length + w.buffer.length := by
  obtain ⟨σ, rfl, hstand, hpolicy, hperiod, -⟩ := Stand.of_open hopen hnone hinitial
  have h₀ : Filing σ policy initial { file := f, disk := d₀ } [] [] { period := f.period, found := initial } := by
    have hcontent : Stretch.content { period := f.period, found := initial } = initial := List.append_nil _
    constructor
    case keeping =>
      rw [hcontent]
      exact hstand.holding.keeping
    case size =>
      rw [hcontent]
      exact hstand.size
    case samePolicy => exact hpolicy
    case clock => exact ⟨_, hperiod⟩
    case period => rfl
    case made => exact .nil
    case left => exact List.Perm.refl _
    case index => simp
    case uniform => simp [Stretch.Uniform]
    case within => simp [Stretch.Within]
    case found => rfl
  obtain ⟨as, before, active, h, hall⟩ := h₀.run hcount hrun
  refine ⟨before, active, ?_, h.found, fun x hx => ⟨h.uniform x hx, h.within x hx⟩, ?_, ?_, h.period, ?_⟩
  · rw [List.flatMap_append, List.flatMap_singleton, hall]
    rfl
  · rw [hstand.site.dir, hstand.site.name]
    exact h.made
  · obtain ⟨bs, hperm, holder⟩ := ArchiveKey.exists_older Kept.key h.keeping.stock.distinct
    have hpaths := hperm.map fun a => σ.pathOf a.key
    refine ⟨bs.map (fun a => σ.pathOf a.key), bs.map (·.content), ?_, ?_, ?_, ?_⟩
    · exact h.keeping.stock.archives h.keeping.site hperm holder
    · exact hpaths.nodup_iff.2 h.keeping.stock.nodup_paths
    · rw [List.map_map, List.map_map]
      exact List.map_congr_left fun a ha => h.keeping.stock.read (hperm.mem_iff.1 ha)
    · rw [List.zip_map']
      exact h.left.trans ((hperm.map _).symm.append_left _)
  · obtain ⟨w, written, hw, hact, hcontent, -⟩ := h.keeping.writer
    refine ⟨w, written, hw, hact.read h.keeping.stock.below, hcontent.symm, ?_⟩
    rw [h.size, hcontent, List.length_append]

/-- A record beyond the limit, the clock set back to the day before, and the day that comes again. -/
theorem filed_clock_back :
    let t₀ : Instant := ⟨1792231200, 0, 0⟩
    let t₁ : Instant := ⟨1792317600, 0, 0⟩
    let writes : List (Bytes × Instant) := [([1, 1, 1], t₁), ([2], t₀), ([3], t₁), ([4], t₁)]
    ∃ f d₀ s, RollingFile.openAt "logs/host.log" ⟨2, 0, .daily⟩ false t₁ t₁ Disk.empty = (.ok f, d₀) ∧
      f.archives d₀ = .ok [] ∧ d₀.read "logs/host.log" = .ok [] ∧
      run { file := f, disk := d₀ } (writes.map (fun e => .write e.1 e.2)) = .ok s ∧
      s.made = [("logs/host.2026-10-18.0.log", [1, 1, 1]), ("logs/host.2026-10-17.0.log", [2])] ∧
      ∃ (before : List Stretch) (active : Stretch), (before ++ [active]).flatMap (·.records) = writes ∧
        (∀ x ∈ before ++ [active], x.Uniform .daily ∧ x.Within 2) ∧
        List.Forall₂ (fun x item =>
          ∃ index, item = (Path.join f.dir (f.name.archive ⟨x.period, index⟩), x.content))
          (before.filter (fun x => x.content ≠ [])) s.made := by
  intro t₀ t₁ writes
  let o := RollingFile.openAt "logs/host.log" ⟨2, 0, .daily⟩ false t₁ t₁ Disk.empty
  have hall : o.1.toOption.any (fun f =>
      f.archives o.2 = .ok [] ∧ o.2.read "logs/host.log" = .ok [] ∧
        (run { file := f, disk := o.2 } (writes.map (fun e => .write e.1 e.2))).toOption.any (fun s =>
          s.made = [("logs/host.2026-10-18.0.log", [1, 1, 1]), ("logs/host.2026-10-17.0.log", [2])])) = true := by
    decide +kernel
  obtain ⟨f, hf, hall⟩ := (Option.any_eq_true _ _).1 hall
  obtain ⟨hnone, hread, hall⟩ := of_decide_eq_true hall
  obtain ⟨s, hs, hall⟩ := (Option.any_eq_true _ _).1 hall
  have hmade := of_decide_eq_true hall
  have hopen : o = (.ok f, o.2) := Prod.ext (ok_of_toOption hf) rfl
  have hrun := ok_of_toOption hs
  have hcount : s.made.length < UInt64.size := by
    rw [hmade]
    decide
  obtain ⟨before, active, hwrites, -, hfine, hmatch, -⟩ := filed hopen hnone hread hrun hcount
  exact ⟨f, o.2, s, hopen, hnone, hread, hrun, hmade, before, active, hwrites, hfine, hmatch⟩

end Track

end ModuleHost
