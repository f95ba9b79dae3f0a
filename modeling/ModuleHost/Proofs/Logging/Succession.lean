import Mathlib
import ModuleHost.Proofs.Logging.Directory
import ModuleHost.Proofs.Logging.Lifespan
import ModuleHost.Proofs.Logging.PeriodOrder

/-!
# One log file after another

The log of a path is taken over by one log file after another, each with a policy of its own, and the archives of
all of them are in one directory. Which of them are the oldest is told by their names.

* `RollingFile.succeed`: another is opened at the path, right before or after the first is closed.
* `Lineage`: a log under way through records and successions, with the archives made and removed.
* `RollingFile.overtaken`: how many archives the next one will be listed before, though they were made earlier.
* `Lineage.Sound`: the archives are listed in the order in which they were made. `Lineage.Sound.run`: that stays
  so as long as no archive is overtaken.
* `Lineage.oldest_removed`: **what is removed was made earliest, until as many archives are overtaken as may be
  kept.**
-/

namespace ModuleHost

open Disk (Appended)

namespace RollingFile

/-- **What can be done** with the log of a path. -/
inductive Act where
  | write (record : Bytes) (now : Instant)
  | flush
  /-- Another log file takes over, under a policy of its own. It is opened before the first is closed, or after
  that. -/
  | succeed (policy : RollingPolicy) (immediateFlush early : Bool) (now modified : Instant)

/-- **Another log file takes over** at the same path. -/
def succeed (f : RollingFile) (policy : RollingPolicy) (immediateFlush early : Bool) (now modified : Instant)
    (d : Disk) : Except SystemError (RollingFile × Disk) :=
  if early then
    match openAt f.path policy immediateFlush now modified d with
    | (.error e, _) => .error e
    | (.ok next, d) =>
      match f.close d with
      | (.error e, _, _) => .error e
      | (.ok (), _, d) => .ok (next, d)
  else
    match f.close d with
    | (.error e, _, _) => .error e
    | (.ok (), _, d) =>
      match openAt f.path policy immediateFlush now modified d with
      | (.error e, _) => .error e
      | (.ok next, d) => .ok (next, d)

/-- **How many archives are overtaken** by the next one: those of a period that lies within that of the active
file. -/
def overtaken (f : RollingFile) (d : Disk) : Nat :=
  match f.keyedArchives d with
  | .ok as => as.countP (fun a => PeriodWithin a.1.period f.period)
  | .error _ => 0

variable {f f' : RollingFile} {d d' : Disk} {policy : RollingPolicy} {immediateFlush early : Bool}
  {now modified : Instant}

theorem succeed_ok (h : f.succeed policy immediateFlush early now modified d = .ok (f', d')) :
    (∃ f₁ d₁, openAt f.path policy immediateFlush now modified d = (.ok f', d₁) ∧ f.close d₁ = (.ok (), f₁, d')) ∨
      ∃ f₁ d₁, f.close d = (.ok (), f₁, d₁) ∧
        openAt f.path policy immediateFlush now modified d₁ = (.ok f', d') := by
  unfold succeed at h
  cases early with
  | true =>
    left
    simp only [if_true] at h
    split at h
    · cases h
    rename_i f₁ d₁ hopen
    split at h
    · cases h
    rename_i f₂ d₂ hclose
    cases h
    exact ⟨f₂, d₁, hopen, hclose⟩
  | false =>
    right
    simp only [Bool.false_eq_true, if_false] at h
    split at h
    · cases h
    rename_i f₁ d₁ hclose
    split at h
    · cases h
    rename_i f₂ d₂ hopen
    cases h
    exact ⟨f₁, d₁, hclose, hopen⟩

end RollingFile

/-- **The next log file goes on** with what the active file and the buffer held. Its period is that of the last
change or of the present. -/
theorem Holding.succeed {σ : LogSite} {f f' : RollingFile} {d d' : Disk} {as : List Kept} {content : Bytes}
    {policy : RollingPolicy} {immediateFlush early : Bool} {now modified : Instant} (h : Holding σ f d as content)
    (hr : f.succeed policy immediateFlush early now modified d = .ok (f', d')) :
    Holding σ f' d' as content ∧ f'.policy = policy ∧
      ∃ t, (t = modified ∨ t = now) ∧ f'.period = policy.rotation.period t := by
  obtain ⟨w, written, hw, hact, rfl, hne⟩ := h.writer
  have hperiod : ∀ n, ∃ t, (t = modified ∨ t = now) ∧
      policy.rotation.period (if 0 < n then modified else now) = policy.rotation.period t := by
    intro n
    refine ⟨_, ?_, rfl⟩
    split
    · exact Or.inl rfl
    · exact Or.inr rfl
  rcases RollingFile.succeed_ok hr with ⟨f₁, d₁, hopen, hclose⟩ | ⟨f₁, d₁, hclose, hopen⟩
  · -- the new one finds the file as it is, and then the buffer comes
    rw [h.site.path] at hopen
    obtain ⟨names, hlist, -⟩ := h.shelf.list_eq
    obtain ⟨rfl, hsite, hnot, hw', -, hpolicy, -, hdate⟩ := hact.openAt h.shelf.below hlist hopen
    have happ := RollingFile.handed_close hclose
    unfold RollingFile.Handed at happ
    rw [hw] at happ
    rw [hdate]
    exact ⟨⟨hsite, hnot, h.shelf.appended happ hne,
      ⟨_, _, hw', hact.appended happ, (List.append_nil _).symm, hne⟩⟩, hpolicy, hperiod _⟩
  · -- the new one finds everything in the file
    have happ := RollingFile.handed_close hclose
    unfold RollingFile.Handed at happ
    rw [hw] at happ
    have hshelf := h.shelf.appended happ hne
    have hact' := hact.appended happ
    rw [h.site.path] at hopen
    obtain ⟨names, hlist, -⟩ := hshelf.list_eq
    obtain ⟨rfl, hsite, hnot, hw', -, hpolicy, -, hdate⟩ := hact'.openAt hshelf.below hlist hopen
    rw [hdate]
    exact ⟨⟨hsite, hnot, hshelf, ⟨_, _, hw', hact', (List.append_nil _).symm, hne⟩⟩, hpolicy, hperiod _⟩

/-! ### The log of a path -/

/-- **The log of a path under way**: the log file in use, the archives made and removed, when the active file was
begun if that was a roll, and the clock. -/
structure Lineage extends Track where
  begun : Option Instant := none
  clock : Instant

namespace Lineage

open RollingFile (Act)

/-- **One act**, if it succeeds. -/
def act (s : Lineage) : Act → Except SystemError Lineage
  | .write record now =>
    match s.toTrack.take (.write record now) with
    | .error e => .error e
    | .ok t =>
      .ok
        { toTrack := t
          begun := if s.made.length < t.made.length then some now else s.begun
          clock := now }
  | .flush =>
    match s.toTrack.take .flush with
    | .error e => .error e
    | .ok t => .ok { s with toTrack := t }
  | .succeed policy immediateFlush early now modified =>
    match s.file.succeed policy immediateFlush early now modified s.disk with
    | .error e => .error e
    | .ok (f, d) => .ok { s with file := f, disk := d, clock := now }

/-- **Some acts**, if all of them succeed. -/
def run (s : Lineage) : List Act → Except SystemError Lineage
  | [] => .ok s
  | a :: acts =>
    match s.act a with
    | .error e => .error e
    | .ok s => s.run acts

/-- What is to hold of each act when it is done. -/
def Along (s : Lineage) (P : Lineage → Act → Prop) : List Act → Prop
  | [] => True
  | a :: acts =>
    P s a ∧
      match s.act a with
      | .ok s => s.Along P acts
      | .error _ => True

/-- **The clock does not go back**, and years have four digits. When a log file takes over, the time of the last
change of the active file is not before it was begun, and not in the future. -/
def Timely (s : Lineage) : Act → Prop
  | .write _ now => s.clock ≤ now ∧ now.FourDigitYear
  | .flush => True
  | .succeed _ _ _ now modified =>
    (s.clock ≤ now ∧ now.FourDigitYear) ∧ (∀ t ∈ s.begun, t ≤ modified) ∧ modified ≤ now ∧ modified.FourDigitYear

/-- **No archive is overtaken** when the active file is set aside. -/
def Foremost (s : Lineage) : Act → Prop
  | .write record now => s.file.rolls record now = true → s.file.size = 0 ∨ s.file.overtaken s.disk = 0
  | _ => True

instance (s : Lineage) : ∀ a, Decidable (s.Timely a)
  | .write _ _ => inferInstanceAs (Decidable (_ ∧ _))
  | .flush => isTrue trivial
  | .succeed _ _ _ _ _ => inferInstanceAs (Decidable ((_ ∧ _) ∧ _ ∧ _ ∧ _))

instance (s : Lineage) : ∀ a, Decidable (s.Foremost a)
  | .write _ _ => inferInstanceAs (Decidable (_ → _))
  | .flush => isTrue trivial
  | .succeed _ _ _ _ _ => isTrue trivial

instance decidableAlong (P : Lineage → Act → Prop) [∀ s a, Decidable (P s a)] :
    ∀ (s : Lineage) (acts : List Act), Decidable (s.Along P acts)
  | _, [] => isTrue trivial
  | s, a :: acts =>
    have : Decidable (match s.act a with | .ok s => s.Along P acts | .error _ => True) :=
      match s.act a with
      | .ok s => decidableAlong P s acts
      | .error _ => isTrue trivial
    inferInstanceAs (Decidable (P s a ∧ _))

/-- **The archives that were removed are those made earliest.** -/
def EarliestRemoved (s : Lineage) : Prop :=
  s.removed.Perm (s.made.take s.removed.length)

end Lineage

/-- The archive's period is that of a time which is not after another. -/
def Kept.Dated (a : Kept) (t : Instant) : Prop :=
  ∃ (r : Rotation) (t' : Instant), a.key.period = r.period t' ∧ t'.FourDigitYear ∧ t' ≤ t

theorem Kept.Dated.mono {a : Kept} {t t' : Instant} (h : a.Dated t) (hle : t ≤ t') : a.Dated t' := by
  obtain ⟨r, t₀, hperiod, hyear, h₀⟩ := h
  exact ⟨r, t₀, hperiod, hyear, Instant.le_trans h₀ hle⟩

namespace Lineage

open RollingFile (Act)

variable {σ : LogSite} {s s' : Lineage} {as : List Kept} {a : Kept} {content record : Bytes}
  {now modified : Instant}
  {policy : RollingPolicy} {immediateFlush early : Bool} {acts rest : List Act} {P : Lineage → Act → Prop}

/-! ### The order of making -/

/-- **A log whose archives are listed in the order in which they were made.** No archive's period is of a time
after that of the active file, nor after the active file was begun. -/
structure Sound (σ : LogSite) (s : Lineage) (as : List Kept) (content : Bytes) : Prop where
  holding : Holding σ s.file s.disk as content
  made : s.made = s.removed ++ as.map (fun a => a.item σ)
  index : ∀ a ∈ as, a.key.index.toNat < s.made.length
  year : s.clock.FourDigitYear
  period : ∃ t, s.file.period = s.file.policy.rotation.period t ∧ t.FourDigitYear ∧ t ≤ s.clock ∧
    ∀ a ∈ as, a.Dated t
  begun : ∀ a ∈ as, ∃ t ∈ s.begun, a.Dated t
  past : ∀ t ∈ s.begun, t ≤ s.clock

namespace Sound

/-- An archive is listed after the next one only if it is overtaken. -/
theorem lt_iff_within (h : Sound σ s as content) (ha : a ∈ as) :
    s.file.period < a.key.period ↔ PeriodWithin a.key.period s.file.period := by
  obtain ⟨t, hperiod, hyear, -, hdated⟩ := h.period
  obtain ⟨r, t', hperiod', hyear', hle⟩ := hdated a ha
  rw [hperiod, hperiod']
  exact Rotation.lt_iff_within hle hyear' hyear

theorem overtaken_eq (h : Sound σ s as content) :
    s.file.overtaken s.disk = as.countP (fun a => s.file.period < a.key.period) := by
  unfold RollingFile.overtaken
  rw [h.holding.shelf.stock.keyedArchives h.holding.site (List.Perm.refl _) h.holding.shelf.older]
  simp only [List.countP_map]
  exact List.countP_congr (fun a ha => by simp [h.lt_iff_within ha])

/-- If none is overtaken, the active file's period is the last. -/
theorem period_le (h : Sound σ s as content) (hnone : s.file.overtaken s.disk = 0) :
    ∀ a ∈ as, a.key.period ≤ s.file.period := by
  rw [h.overtaken_eq, List.countP_eq_zero] at hnone
  exact fun a ha => not_lt.1 (fun hlt => hnone a ha (decide_eq_true hlt))

/-- A record of the same period goes to the active file. -/
theorem stay {f : RollingFile} {d : Disk} (h : Sound σ s as content) (hclock : s.clock ≤ now)
    (hyear : now.FourDigitYear) (hr : s.file.appendRecord record s.disk = (.ok (), f, d)) :
    Sound σ { s with file := f, disk := d, clock := now } as (content ++ record) := by
  obtain ⟨hold, -, hpolicy, hperiod⟩ := h.holding.append hr
  obtain ⟨t, ht, htyear, hle, hdated⟩ := h.period
  constructor
  case holding => exact hold
  case made => exact h.made
  case index => exact h.index
  case year => exact hyear
  case period =>
    refine ⟨t, ?_, htyear, Instant.le_trans hle hclock, hdated⟩
    rw [hperiod, hpolicy]
    exact ht
  case begun => exact h.begun
  case past => exact fun b hb => Instant.le_trans (h.past b hb) hclock

/-- **A record that rolls over** puts the old content last among the archives, and removes the first of these. -/
theorem rollOver {f₁ f : RollingFile} {d₁ d : Disk} (h : Sound σ s as content) (hclock : s.clock ≤ now)
    (hyear : now.FourDigitYear) (hforemost : s.file.size = 0 ∨ s.file.overtaken s.disk = 0)
    (hm : s.made.length < UInt64.size)
    (hroll : s.file.roll (s.file.policy.rotation.period now) s.disk = (.ok (), f₁, d₁))
    (hr : f₁.appendRecord record d₁ = (.ok (), f, d)) :
    ∃ as' content', Sound σ
      { file := f
        disk := d
        made := s.made ++ s.file.archiveMade s.disk
        removed := s.removed ++ s.file.archivesRemoved (s.file.policy.rotation.period now) s.disk
        begun := if s.made.length < (s.made ++ s.file.archiveMade s.disk).length then some now else s.begun
        clock := now } as' content' := by
  obtain ⟨t, ht, htyear, hle, hdated⟩ := h.period
  obtain ⟨new, rest, gone, -, hold, -, hpolicy, hnext, hmade, hremoved, -, hnew⟩ :=
    h.holding.roll hm ⟨t, ht⟩ (fun hsize => h.period_le (hforemost.resolve_left hsize)) h.index hroll
  obtain ⟨hold', -, hpolicy', hnext'⟩ := hold.append hr
  -- all archives are of times up to that of the old file
  have hall : ∀ a ∈ as ++ new, a.Dated t := by
    intro a ha
    rcases List.mem_append.1 ha with ha | ha
    · exact hdated a ha
    · exact ⟨s.file.policy.rotation, t, (hnew a ha).1.trans ht, htyear, Instant.le_refl t⟩
  have hnow : t ≤ now := Instant.le_trans hle hclock
  refine ⟨(as ++ new).drop gone, rest ++ record, ?_⟩
  constructor
  case holding => exact hold'
  case made =>
    show s.made ++ _ = (s.removed ++ _) ++ _
    rw [h.made, hmade, hremoved, List.append_assoc, List.append_assoc, ← List.map_append, ← List.map_append,
      List.take_append_drop]
  case index =>
    intro a ha
    simp only [List.length_append, hmade, List.length_map]
    rcases List.mem_append.1 (List.mem_of_mem_drop ha) with ha | ha
    · have hlt := h.index a ha
      omega
    · have hle := (hnew a ha).2
      have hpos := List.length_pos_of_mem ha
      omega
  case year => exact hyear
  case period =>
    refine ⟨now, ?_, hyear, Instant.le_refl now, fun a ha => (hall a (List.mem_of_mem_drop ha)).mono hnow⟩
    rw [hnext', hnext, hpolicy', hpolicy]
  case begun =>
    intro a ha
    have ha := List.mem_of_mem_drop ha
    simp only [List.length_append, hmade, List.length_map]
    split
    · exact ⟨now, rfl, (hall a ha).mono hnow⟩
    · -- nothing was set aside, so the archives are those from before
      rename_i hnot
      have hnil : new = [] := List.length_eq_zero_iff.1 (by omega)
      rw [hnil, List.append_nil] at ha
      exact h.begun a ha
  case past =>
    intro b hb
    simp only at hb
    split at hb
    · rw [← Option.some.inj hb]
      exact Instant.le_refl now
    · exact Instant.le_trans (h.past b hb) hclock

/-- **A record**, when no archive is overtaken. -/
theorem write (h : Sound σ s as content) (htimely : s.Timely (.write record now))
    (hforemost : s.Foremost (.write record now)) (hm : s.made.length < UInt64.size)
    (ht : s.act (.write record now) = .ok s') : ∃ as' content', Sound σ s' as' content' := by
  unfold act at ht
  simp only at ht
  split at ht
  · cases ht
  rename_i t htake
  cases ht
  rcases Track.take_write_ok h.holding.notClosed htake with
    ⟨-, -, f, d, hr, rfl⟩ | ⟨hrolls, f₁, d₁, f, d, hroll, hr, rfl⟩
  · simp only [lt_irrefl, if_false]
    exact ⟨as, content ++ record, h.stay htimely.1 htimely.2 hr⟩
  · exact h.rollOver htimely.1 htimely.2 (hforemost hrolls) hm hroll hr

/-- **A flush** changes nothing but where the bytes are. -/
theorem flush (h : Sound σ s as content) (ht : s.act .flush = .ok s') : Sound σ s' as content := by
  unfold act Track.take at ht
  simp only at ht
  rcases hflush : s.file.flush s.disk with ⟨r, f, d⟩
  rw [hflush] at ht
  cases r with
  | error e => cases ht
  | ok u =>
    cases ht
    obtain ⟨hold, -, -, hpolicy, hperiod⟩ := h.holding.flush hflush
    obtain ⟨t, ht, hrest⟩ := h.period
    refine ⟨hold, h.made, h.index, h.year, ⟨t, ?_, hrest⟩, h.begun, h.past⟩
    rw [hperiod, hpolicy]
    exact ht

/-- **A succession** keeps the archives. They are all of times before the last change of the active file. -/
theorem succeed (h : Sound σ s as content) (htimely : s.Timely (.succeed policy immediateFlush early now modified))
    (ht : s.act (.succeed policy immediateFlush early now modified) = .ok s') : Sound σ s' as content := by
  unfold act at ht
  simp only at ht
  split at ht
  · cases ht
  rename_i f d hsucceed
  cases ht
  obtain ⟨⟨hclock, hyear⟩, hbegun, hmodified, hyear'⟩ := htimely
  obtain ⟨hold, hpolicy, t, ht, hperiod⟩ := h.holding.succeed hsucceed
  refine ⟨hold, h.made, h.index, hyear, ⟨t, ?_, ?_⟩, h.begun, fun b hb => Instant.le_trans (h.past b hb) hclock⟩
  · rw [hperiod, hpolicy]
  · rcases ht with rfl | rfl
    · refine ⟨hyear', hmodified, fun a ha => ?_⟩
      obtain ⟨b, hb, hdated⟩ := h.begun a ha
      exact hdated.mono (hbegun b hb)
    · refine ⟨hyear, Instant.le_refl _, fun a ha => ?_⟩
      obtain ⟨b, hb, hdated⟩ := h.begun a ha
      exact hdated.mono (Instant.le_trans (h.past b hb) hclock)

/-- **One act**, when no archive is overtaken. -/
theorem act {a : Act} (h : Sound σ s as content) (htimely : s.Timely a) (hforemost : s.Foremost a)
    (hm : s.made.length < UInt64.size) (ht : s.act a = .ok s') : ∃ as' content', Sound σ s' as' content' := by
  cases a with
  | write record now => exact h.write htimely hforemost hm ht
  | flush => exact ⟨as, content, h.flush ht⟩
  | succeed policy immediateFlush early now modified => exact ⟨as, content, h.succeed htimely ht⟩

end Sound

/-- Archives that were made stay on the list. -/
theorem made_le_of_act {a : Act} (h : s.act a = .ok s') : s.made.length ≤ s'.made.length := by
  cases a with
  | write record now =>
    unfold act at h
    simp only at h
    split at h
    · cases h
    rename_i t htake
    cases h
    exact Track.made_le_of_take htake
  | flush =>
    unfold act at h
    simp only at h
    split at h
    · cases h
    rename_i t htake
    cases h
    exact Track.made_le_of_take htake
  | succeed policy immediateFlush early now modified =>
    unfold act at h
    simp only at h
    split at h
    · cases h
    cases h
    exact le_refl _

theorem run_cons_ok_iff {a : Act} :
    s.run (a :: acts) = .ok s' ↔ ∃ s₁, s.act a = .ok s₁ ∧ s₁.run acts = .ok s' := by
  rw [run]
  split
  · rename_i e h
    simp [h]
  · rename_i s₁ h
    simp [h]

theorem made_le_of_run (h : s.run acts = .ok s') : s.made.length ≤ s'.made.length := by
  induction acts generalizing s with
  | nil =>
    cases h
    exact le_refl _
  | cons a acts ih =>
    obtain ⟨s₁, ha, hr⟩ := run_cons_ok_iff.1 h
    exact (made_le_of_act ha).trans (ih hr)

/-- **Any acts**, as long as no archive is overtaken. -/
theorem Sound.run (h : Sound σ s as content) (htimely : s.Along Timely acts) (hforemost : s.Along Foremost acts)
    (hm : s'.made.length < UInt64.size) (hr : s.run acts = .ok s') : ∃ as' content', Sound σ s' as' content' := by
  induction acts generalizing s as content with
  | nil =>
    cases hr
    exact ⟨as, content, h⟩
  | cons a acts ih =>
    obtain ⟨s₁, ha, hr⟩ := run_cons_ok_iff.1 hr
    -- no more archives were made before than in the end
    have hm₁ := ((made_le_of_act ha).trans (made_le_of_run hr)).trans_lt hm
    obtain ⟨htimely, htimely'⟩ := htimely
    obtain ⟨hforemost, hforemost'⟩ := hforemost
    rw [ha] at htimely' hforemost'
    obtain ⟨as₁, content₁, h₁⟩ := h.act htimely hforemost hm₁ ha
    exact ih h₁ htimely' hforemost' hr

/-! ### The next record -/

section Between

variable {α : Type} {pre post : List α} {x : α} {k : Nat}

/-- What stands between others is among the first if these are more than those before it. -/
theorem mem_take_between (h : (pre ++ x :: post).Nodup) : x ∈ (pre ++ x :: post).take k ↔ pre.length < k := by
  have hx : x ∉ pre := fun hmem => (List.nodup_append.1 h).2.2 x hmem x List.mem_cons_self rfl
  rw [List.take_append, List.mem_append, or_iff_right (fun hmem => hx (List.mem_of_mem_take hmem))]
  rcases Nat.lt_or_ge pre.length k with hlt | hge
  · obtain ⟨m, hm⟩ := Nat.exists_eq_succ_of_ne_zero (Nat.sub_ne_zero_of_lt hlt)
    simp [hm, hlt]
  · simp [Nat.sub_eq_zero_of_le hge, hge]

/-- **Taking what stands last in another order** for one of the first shows, if it is taken and others are
left. -/
theorem perm_take_between (h : (pre ++ x :: post).Nodup) (hk : k ≤ pre.length + post.length) :
    ((pre ++ x :: post).take k).Perm ((pre ++ post ++ [x]).take k) ↔ k ≤ pre.length := by
  constructor
  · intro hperm
    by_contra hnot
    -- what stands last is not among the first of its own order
    have hmem := hperm.mem_iff.1 ((mem_take_between h).2 (Nat.lt_of_not_le hnot))
    rw [List.take_append_of_le_length (by rw [List.length_append]; exact hk)] at hmem
    have hmem := List.mem_of_mem_take hmem
    rw [List.nodup_middle, List.nodup_cons] at h
    exact h.1 hmem
  · intro hle
    rw [List.take_append_of_le_length hle, List.append_assoc, List.take_append_of_le_length hle]

/-- The same for as many as are beyond a limit, after others that are gone already. -/
theorem perm_beyond_limit {gone : List α} {limit : Nat} (h : (pre ++ x :: post).Nodup)
    (hk : k = pre.length + post.length + 1 - limit) :
    (gone ++ (pre ++ x :: post).take k).Perm
        ((gone ++ (pre ++ post ++ [x])).take (gone ++ (pre ++ x :: post).take k).length) ↔
      limit = 0 ∨ post.length < limit := by
  have hlength : ((pre ++ x :: post).take k).length = k := by
    rw [List.length_take, List.length_append, List.length_cons]
    omega
  rw [List.length_append, hlength, List.take_length_add_append, List.perm_append_left_iff]
  rcases Nat.eq_zero_or_pos limit with rfl | hpos
  · -- all of them go, in whatever order
    rw [List.take_of_length_le (by simp; omega), List.take_of_length_le (by simp; omega)]
    simp only [true_or, iff_true]
    exact List.perm_middle.trans (List.perm_append_singleton x _).symm
  · rw [perm_take_between h (by omega)]
    omega

end Between

/-- Archives in the order of their keys are first those up to some period, and then those of later periods. -/
theorem exists_split (h : as.Pairwise (fun a b => a.key.Older b.key)) (p : String) :
    ∃ pre post, as = pre ++ post ∧ (∀ a ∈ pre, a.key.period ≤ p) ∧ ∀ a ∈ post, p < a.key.period := by
  induction as with
  | nil => exact ⟨[], [], rfl, by simp, by simp⟩
  | cons a as ih =>
    obtain ⟨hfirst, h⟩ := List.pairwise_cons.1 h
    rcases le_or_gt a.key.period p with hle | hlt
    · obtain ⟨pre, post, rfl, hpre, hpost⟩ := ih h
      exact ⟨a :: pre, post, rfl, List.forall_mem_cons.2 ⟨hle, hpre⟩, hpost⟩
    · refine ⟨[], a :: as, rfl, by simp, List.forall_mem_cons.2 ⟨hlt, fun b hb => ?_⟩⟩
      rcases hfirst b hb with hp | ⟨hp, -⟩
      · exact hlt.trans hp
      · exact hp ▸ hlt

/-- Archives with keys of their own have paths of their own. -/
theorem nodup_items {d : Disk} (h : Stock σ d as) : (as.map (fun a => a.item σ)).Nodup := by
  refine List.Nodup.of_map Prod.fst ?_
  rw [List.map_map]
  exact h.nodup_paths

/-- **What the next record removes**: it is made earliest exactly if nothing was set aside, or nothing is kept, or
more archives are kept than are overtaken. The archive just made is removed exactly if no more are kept than are
overtaken. -/
theorem Sound.next (h : Sound σ s as content) (hm : s.made.length < UInt64.size)
    (ht : s.act (.write record now) = .ok s') :
    ∃ new gone, s'.made = s.made ++ new ∧ s'.removed = s.removed ++ gone ∧
      (s'.EarliestRemoved ↔ new = [] ∨ s.file.policy.maxHistory = 0 ∨
        s.file.overtaken s.disk < s.file.policy.maxHistory) ∧
      ∀ x ∈ new, x ∈ gone ↔ s.file.policy.maxHistory ≤ s.file.overtaken s.disk := by
  unfold Lineage.act at ht
  simp only at ht
  split at ht
  · cases ht
  rename_i t htake
  cases ht
  unfold EarliestRemoved
  -- what is removed without anything new are the first of the archives
  have hfirst : ∀ k, (s.removed ++ (as.take k).map (fun a => a.item σ)).Perm
      (s.made.take (s.removed ++ (as.take k).map (fun a => a.item σ)).length) := by
    intro k
    rw [h.made, List.length_append, List.take_length_add_append, List.perm_append_left_iff, List.map_take,
      List.length_take, ← List.take_take, List.take_length]
  rcases Track.take_write_ok h.holding.notClosed htake with
    ⟨-, -, f, d, -, rfl⟩ | ⟨-, f₁, d₁, f, d, hroll, -, rfl⟩
  · refine ⟨[], [], (List.append_nil _).symm, (List.append_nil _).symm, ?_, by simp⟩
    simpa using hfirst 0
  unfold RollingFile.roll at hroll
  split at hroll
  · cases hroll
  rename_i f₂ d₂ hrenew
  obtain ⟨u, hperiod, -⟩ := h.period
  obtain ⟨new, rest, i, hf₂, hstock, -, -, hmade, hmoved, hnew⟩ :=
    h.holding.keeping.renew hm ⟨u, hperiod⟩ h.index hrenew
  have hpolicy : f₂.policy = s.file.policy := by rw [hf₂]
  have hsite : f₂.At σ := by
    rw [hf₂]
    exact ⟨h.holding.site.path, h.holding.site.dir, h.holding.site.name⟩
  refine ⟨_, _, rfl, rfl, ?_⟩
  rcases hmoved with ⟨-, rfl, -⟩ | ⟨-, -, hone⟩
  · -- nothing was set aside
    rw [List.append_nil] at hstock
    have hremoved := hstock.archivesRemoved hsite (List.Perm.refl _) h.holding.shelf.older hrenew
    simp only [hmade, hremoved, List.map_nil, List.append_nil, true_or, iff_true]
    exact ⟨hfirst _, by simp⟩
  · obtain ⟨x, rfl, -⟩ := List.map_eq_singleton_iff.1 hone
    obtain ⟨hx, -, holder⟩ := hnew x List.mem_cons_self
    obtain ⟨pre, post, rfl, hpre, hpost⟩ := exists_split h.holding.shelf.older s.file.period
    have hcount : s.file.overtaken s.disk = post.length := by
      rw [h.overtaken_eq, List.countP_append, List.countP_eq_zero.2, List.countP_eq_length.2, Nat.zero_add]
      · exact fun a ha => decide_eq_true (hpost a ha)
      · exact fun a ha => by simpa using not_lt.2 (hpre a ha)
    -- the new archive is listed between those up to its period and those of later ones
    have hperm : (pre ++ x :: post).Perm (pre ++ post ++ [x]) :=
      List.perm_middle.trans (List.perm_append_singleton x _).symm
    have hsorted : (pre ++ x :: post).Pairwise (fun a b => a.key.Older b.key) := by
      obtain ⟨hp, hq, hpq⟩ := List.pairwise_append.1 h.holding.shelf.older
      refine List.pairwise_append.2 ⟨hp, List.pairwise_cons.2 ⟨fun b hb => Or.inl ?_, hq⟩, fun a ha => ?_⟩
      · rw [hx]
        exact hpost b hb
      · exact List.forall_mem_cons.2 ⟨holder a (List.mem_append_left _ ha) (hpre a ha), hpq a ha⟩
    have hremoved := hstock.archivesRemoved hsite hperm hsorted hrenew
    have hnodup : (pre.map (fun a => a.item σ) ++ x.item σ :: post.map (fun a => a.item σ)).Nodup := by
      have hitems := (hperm.map (fun a => a.item σ)).nodup_iff.2 (nodup_items hstock)
      rwa [List.map_append, List.map_cons] at hitems
    obtain ⟨k, hk⟩ : ∃ k, k = (pre ++ x :: post).length - f₂.policy.maxHistory := ⟨_, rfl⟩
    rw [← hk] at hremoved
    have hk : k = (pre.map (fun a => a.item σ)).length + (post.map (fun a => a.item σ)).length + 1 -
        s.file.policy.maxHistory := by
      rw [hk, hpolicy]
      simp only [List.length_append, List.length_cons, List.length_map]
      omega
    rw [hmade, hremoved, hcount, h.made]
    simp only [List.map_take, List.map_append, List.map_cons, List.map_nil]
    constructor
    · rw [List.append_assoc, perm_beyond_limit hnodup hk, List.length_map]
      simp
    · intro y hy
      rw [List.mem_singleton.1 hy, mem_take_between hnodup, hk]
      simp only [List.length_map]
      omega

/-- **What is removed was made earliest.** A log file is opened in a directory that has no archives of it. Then
come records, flushes, and other log files that take over the path, each under a policy of its own and opened
before or after the one before it is closed. The clock does not go back, nothing fails, and no archive is
overtaken where the active file is set aside: none is of a finer rotation and within its period. Then the archives
that were removed are the first of those made, and the others are listed in the order in which they were made.
What the next record removes is made earliest exactly if nothing is set aside, or nothing is kept, or more
archives are kept than are overtaken; and the archive that it makes is removed exactly if no more are kept than
are overtaken. The numbers of archives are 64-bit words, so there is a limit to how many can be made. -/
theorem oldest_removed {path : String} {d d₀ : Disk} {f : RollingFile} {initial : Bytes}
    (hopen : RollingFile.openAt path policy immediateFlush now modified d = (.ok f, d₀))
    (hnone : f.archives d₀ = .ok []) (hinitial : d₀.read path = .ok initial) (hnow : now.FourDigitYear)
    (hmodified : initial ≠ [] → modified ≤ now ∧ modified.FourDigitYear)
    (htimely : Along { file := f, disk := d₀, clock := now } Timely acts)
    (hforemost : Along { file := f, disk := d₀, clock := now } Foremost acts)
    (hrun : run { file := f, disk := d₀, clock := now } acts = .ok s) (hcount : s.made.length < UInt64.size) :
    (∃ paths contents, s.file.archives s.disk = .ok paths ∧ paths.map s.disk.read = contents.map .ok ∧
      s.made = s.removed ++ paths.zip contents) ∧
    ∀ record now s', s.act (.write record now) = .ok s' →
      ∃ new gone, s'.made = s.made ++ new ∧ s'.removed = s.removed ++ gone ∧
        (s'.EarliestRemoved ↔ new = [] ∨ s.file.policy.maxHistory = 0 ∨
          s.file.overtaken s.disk < s.file.policy.maxHistory) ∧
        ∀ x ∈ new, x ∈ gone ↔ s.file.policy.maxHistory ≤ s.file.overtaken s.disk := by
  obtain ⟨σ, rfl, hstand, hpolicy, hperiod, -⟩ := Stand.of_open hopen hnone hinitial
  have h₀ : Sound σ { file := f, disk := d₀, clock := now } [] initial := by
    obtain ⟨t, ht, hyear, hle⟩ : ∃ t, f.period = f.policy.rotation.period t ∧ t.FourDigitYear ∧ t ≤ now := by
      rw [hpolicy]
      refine ⟨_, hperiod, ?_⟩
      split
      · rename_i hlength
        exact (hmodified (List.length_pos_iff.1 hlength)).symm
      · exact ⟨hnow, Instant.le_refl now⟩
    exact ⟨hstand.holding, rfl, by simp, hnow, ⟨t, ht, hyear, hle, by simp⟩, by simp, by simp⟩
  obtain ⟨as, content, h⟩ := h₀.run htimely hforemost hcount hrun
  constructor
  · refine ⟨as.map (fun a => σ.pathOf a.key), as.map (fun a => a.content), ?_⟩
    refine ⟨h.holding.shelf.archives h.holding.site, ?_, ?_⟩
    · rw [List.map_map, List.map_map]
      exact List.map_congr_left (fun a ha => h.holding.shelf.read ha)
    · rw [h.made, List.zip_map']
      rfl
  · intro record now s' ht
    exact h.next hcount ht

/-- A log with a day's archive that was not kept, and then hourly ones of which one is kept. -/
theorem oldest_removed_finer :
    let t₀ : Instant := ⟨1792231200, 0, 0⟩
    let t₁ : Instant := ⟨1792317600, 0, 0⟩
    let t₂ : Instant := ⟨1792321200, 0, 0⟩
    let acts : List Act := [.write [1] t₀, .write [2] t₁, .succeed ⟨64, 1, .hourly⟩ true true t₁ t₁]
    ∃ f d₀ s s', RollingFile.openAt "host.log" ⟨64, 0, .daily⟩ true t₀ t₀ Disk.empty = (.ok f, d₀) ∧
      Along { file := f, disk := d₀, clock := t₀ } Timely acts ∧
      Along { file := f, disk := d₀, clock := t₀ } Foremost acts ∧
      run { file := f, disk := d₀, clock := t₀ } acts = .ok s ∧ s.act (.write [3] t₂) = .ok s' ∧
      s'.removed = [("./host.2026-10-17.0.log", [1])] ∧ s'.made.length = 2 ∧ s'.EarliestRemoved := by
  intro t₀ t₁ t₂ acts
  let o := RollingFile.openAt "host.log" ⟨64, 0, .daily⟩ true t₀ t₀ Disk.empty
  have hall : o.1.toOption.any (fun f =>
      let s₀ : Lineage := { file := f, disk := o.2, clock := t₀ }
      decide (f.archives o.2 = .ok [] ∧ o.2.read "host.log" = .ok [] ∧ s₀.Along Timely acts ∧
        s₀.Along Foremost acts) && (s₀.run acts).toOption.any (fun s =>
          decide (s.made.length = 1 ∧ s.file.policy.maxHistory = 1 ∧ s.file.overtaken s.disk = 0) &&
            (s.act (.write [3] t₂)).toOption.any (fun s' =>
              decide (s'.removed = [("./host.2026-10-17.0.log", [1])] ∧ s'.made.length = 2)))) = true := by
    decide +kernel
  obtain ⟨f, hf, hall⟩ := (Option.any_eq_true _ _).1 hall
  obtain ⟨hfirst, hall⟩ := Bool.and_eq_true_iff.1 hall
  obtain ⟨hnone, hread, htimely, hforemost⟩ := of_decide_eq_true hfirst
  obtain ⟨s, hs, hall⟩ := (Option.any_eq_true _ _).1 hall
  obtain ⟨hthen, hall⟩ := Bool.and_eq_true_iff.1 hall
  obtain ⟨hmade, hkept, hovertaken⟩ := of_decide_eq_true hthen
  obtain ⟨s', hs', hall⟩ := (Option.any_eq_true _ _).1 hall
  obtain ⟨hremoved, hmade'⟩ := of_decide_eq_true hall
  have hopen : o = (.ok f, o.2) := Prod.ext (Track.ok_of_toOption hf) rfl
  have hrun := Track.ok_of_toOption hs
  have hact := Track.ok_of_toOption hs'
  have hcount : s.made.length < UInt64.size := by
    rw [hmade]
    decide
  obtain ⟨new, gone, -, -, hiff, -⟩ :=
    (oldest_removed hopen hnone hread (by decide) (fun h => (h rfl).elim) htimely
    hforemost hrun hcount).2 _ _ s' hact
  refine ⟨f, o.2, s, s', hopen, htimely, hforemost, hrun, hact, hremoved, hmade', hiff.2 (Or.inr (Or.inr ?_))⟩
  rw [hkept, hovertaken]
  decide

/-- **A new archive is removed and an older one stays.** An hourly log becomes a daily one, and one archive is
kept. The archive of the day that the next record makes is listed before the one of an hour of that day, and is
removed. -/
theorem newest_removed :
    let t₀ : Instant := ⟨1792231200, 0, 0⟩
    let t₁ : Instant := ⟨1792234800, 0, 0⟩
    let t₂ : Instant := ⟨1792317600, 0, 0⟩
    let hour : String × Bytes := ("./host.2026-10-17-10.0.log", [1])
    let day : String × Bytes := ("./host.2026-10-17.0.log", [2])
    let acts : List Act := [.write [1] t₀, .write [2] t₁, .succeed ⟨64, 1, .daily⟩ true false t₁ t₁]
    ∃ f d₀ s s', RollingFile.openAt "host.log" ⟨64, 1, .hourly⟩ true t₀ t₀ Disk.empty = (.ok f, d₀) ∧
      f.archives d₀ = .ok [] ∧ Along { file := f, disk := d₀, clock := t₀ } Timely acts ∧
      run { file := f, disk := d₀, clock := t₀ } acts = .ok s ∧ s.Timely (.write [3] t₂) ∧
      s.file.policy.maxHistory = 1 ∧ s.act (.write [3] t₂) = .ok s' ∧ s'.made = [hour, day] ∧ s'.removed = [day] ∧
      ¬ s'.EarliestRemoved := by
  intro t₀ t₁ t₂ hour day acts
  let o := RollingFile.openAt "host.log" ⟨64, 1, .hourly⟩ true t₀ t₀ Disk.empty
  let names := ["host.2026-10-17-10.0.log", "host.2026-10-17.0.log", "host.log"]
  let keyed : List (ArchiveKey × String) :=
    [(⟨"2026-10-17", 0⟩, "host.2026-10-17.0.log"), (⟨"2026-10-17-10", 0⟩, "host.2026-10-17-10.0.log")]
  have hall : o.1.toOption.any (fun f =>
      let s₀ : Lineage := { file := f, disk := o.2, clock := t₀ }
      decide (f.archives o.2 = .ok [] ∧ s₀.Along Timely acts) &&
        (s₀.run acts).toOption.any (fun s =>
          let n := s.file.renew (s.file.policy.rotation.period t₂) s.disk
          let r := RollingFile.removeAll [day.1] n.2.2
          decide (s.Timely (.write [3] t₂) ∧ s.file.policy.maxHistory = 1 ∧ s.file.closed = false ∧
            s.file.rolls [3] t₂ = true ∧ s.made = [hour] ∧ s.removed = [] ∧ s.file.archiveMade s.disk = [day] ∧
            n.1 = .ok () ∧ n.2.1.policy.maxHistory = 1 ∧ n.2.1.dir = "." ∧ n.2.2.list n.2.1.dir = .ok names ∧
            keyed.Perm (n.2.1.name.keyed names) ∧ n.2.2.read day.1 = .ok day.2 ∧ r.1 = .ok () ∧
            (n.2.1.appendRecord [3] r.2).1 = .ok ()))) = true := by
    decide +kernel
  obtain ⟨f, hf, hall⟩ := (Option.any_eq_true _ _).1 hall
  obtain ⟨hfirst, hall⟩ := Bool.and_eq_true_iff.1 hall
  obtain ⟨hnone, htimely⟩ := of_decide_eq_true hfirst
  obtain ⟨s, hs, hall⟩ := (Option.any_eq_true _ _).1 hall
  obtain ⟨htimely', hkept, hopened, hrolls, hmade, hremoved, harchive, hnew, hkept', hdir, hlist,
    hkeyed, hread, hgone, happend⟩ := of_decide_eq_true hall
  have hopen : o = (.ok f, o.2) := Prod.ext (Track.ok_of_toOption hf) rfl
  -- the new archive comes first in the order of the names
  let n := s.file.renew (s.file.policy.rotation.period t₂) s.disk
  let r := RollingFile.removeAll [day.1] n.2.2
  have holder : keyed.Pairwise (fun a b => a.1.Older b.1) := by
    refine List.pairwise_cons.2 ⟨List.forall_mem_singleton.2 (Or.inl ?_), List.pairwise_singleton _ _⟩
    decide
  have hexcess : n.2.1.excess n.2.2 = .ok [day.1] := by
    unfold RollingFile.excess RollingFile.archives
    rw [RollingFile.keyedArchives_of_perm hlist hkeyed holder, hkept', hdir]
    rfl
  have hlost :
      [day.1].filterMap (fun path => (n.2.2.read path).toOption.map (fun content => (path, content))) = [day] := by
    rw [List.filterMap_cons, hread]
    rfl
  have htake : s.toTrack.take (.write [3] t₂) = .ok
      { file := (n.2.1.appendRecord [3] r.2).2.1, disk := (n.2.1.appendRecord [3] r.2).2.2, made := [hour, day]
        removed := [day] } := by
    rw [Track.take_of_excess hopened hrolls (Prod.ext hnew rfl) hexcess (Prod.ext hgone rfl)
      (Prod.ext happend rfl), hmade, hremoved, harchive]
    exact congrArg (fun gone => Except.ok (Track.mk _ _ [hour, day] gone)) hlost
  have hact : s.act (.write [3] t₂) = .ok
      { file := (n.2.1.appendRecord [3] r.2).2.1, disk := (n.2.1.appendRecord [3] r.2).2.2, made := [hour, day]
        removed := [day], begun := some t₂, clock := t₂ } := by
    unfold act
    simp only [htake, hmade]
    rfl
  refine ⟨f, o.2, s, _, hopen, hnone, htimely, Track.ok_of_toOption hs, htimely', hkept, hact, rfl, rfl, ?_⟩
  show ¬ [day].Perm ([hour, day].take 1)
  decide

end Lineage

end ModuleHost
