import Mathlib
import ModuleHost.Proofs.Logging.Lifespan
import ModuleHost.Proofs.Logging.Steady

/-!
# An unbroken log

All records that were ever written are in the archives that were removed, in those that are there, and in the
active file, in this order, and each file holds whole records.

* `Tiled`: files that hold some records between them.
* `Unbroken`: the archives and the active file of an open log file hold all records, but for the oldest archives.
* `Unbroken.write`, `Unbroken.run`: **records keep the log unbroken**, with and without rolls.
* `RollingFile.takesInPlace`: whether records that are waiting go to the active file one and all.
* `Unbroken.handOver`: **another may go on with the file** that it opened before the records that waited were
  written, if these went to the active file.
-/

namespace ModuleHost

open Disk (Appended)
open RollingFile (Call)

/-! ### Records and files -/

/-- **Files that hold some records between them**: each holds the next few, as whole ones, and the active file
holds the rest. -/
def Tiled (records : List Bytes) (files : List Bytes) (active : Bytes) : Prop :=
  ∃ (groups : List (List Bytes)) (last : List Bytes), groups.flatten ++ last = records ∧
    files = groups.map List.flatten ∧ active = last.flatten

namespace Tiled

variable {records files : List Bytes} {active record : Bytes}

/-- A record is added to the active file. -/
theorem add (h : Tiled records files active) : Tiled (records ++ [record]) files (active ++ record) := by
  obtain ⟨groups, last, rfl, rfl, rfl⟩ := h
  exact ⟨groups, last ++ [record], by simp, rfl, by simp⟩

/-- The active file is closed, and the next record begins another. -/
theorem turn (h : Tiled records files active) : Tiled (records ++ [record]) (files ++ [active]) record := by
  obtain ⟨groups, last, rfl, rfl, rfl⟩ := h
  exact ⟨groups ++ [last], [record], by simp, by simp, by simp⟩

/-- All bytes of the records are there, in order. -/
theorem flatten (h : Tiled records files active) : files.flatten ++ active = records.flatten := by
  obtain ⟨groups, last, rfl, rfl, rfl⟩ := h
  rw [List.flatten_append]
  congr 1
  induction groups with
  | nil => rfl
  | cons group groups ih => simp [ih]

end Tiled

/-- **An unbroken log**: the contents of the archives that were removed, those of the archives that are there, and
the active file with its buffer hold all records. Archives were removed only if there are as many left as may
be. -/
def Unbroken (σ : LogSite) (policy : RollingPolicy) (records : List Bytes) (f : RollingFile) (d : Disk)
    (clock : Instant) : Prop :=
  ∃ (as : List Kept) (removed : List Bytes) (content : Bytes),
    clock.FourDigitYear ∧ Steady σ policy f d as content records.length clock ∧
    Tiled records (removed ++ as.map (·.content)) content ∧
    (removed = [] ∨ as.length = policy.maxHistory)

/-- Whether records go to the active file one and all, as they are written one after another at one time. -/
def RollingFile.takesInPlace (f : RollingFile) (now : Instant) : List Bytes → Disk → Bool
  | [], _ => true
  | record :: records, d =>
    !f.rolls record now &&
      (f.write record now d).2.1.takesInPlace now records (f.write record now d).2.2

namespace Track

/-- A record that was taken was written. -/
theorem write_of_take {s s' : Track} {record : Bytes} {now : Instant}
    (h : s.take (.write record now) = .ok s') :
    s.file.write record now s.disk = (.ok (), s'.file, s'.disk) := by
  unfold take at h
  simp only at h
  split at h
  · cases h
  rename_i f d hwrite
  rw [hwrite]
  split at h <;> cases h <;> rfl

end Track

namespace Unbroken

variable {σ : LogSite} {policy : RollingPolicy} {records more : List Bytes} {f f' f₁ : RollingFile}
  {d d' d₁ : Disk} {record : Bytes} {clock now : Instant} {w : LogWriter}

theorem later (h : Unbroken σ policy records f d clock) (hclock : clock ≤ now) (hyear : now.FourDigitYear) :
    Unbroken σ policy records f d now := by
  obtain ⟨as, removed, content, hyear₀, hsteady, htiled, hfull⟩ := h
  have hperiod := policy.rotation.period_mono hclock hyear₀ hyear
  exact ⟨as, removed, content, hyear, hsteady.later hperiod, htiled, hfull⟩

theorem steady (h : Unbroken σ policy records f d clock) :
    ∃ as content, Steady σ policy f d as content records.length clock := by
  obtain ⟨as, removed, content, -, hsteady, -, -⟩ := h
  exact ⟨as, content, hsteady⟩

theorem year (h : Unbroken σ policy records f d clock) : clock.FourDigitYear := by
  obtain ⟨as, removed, content, hyear, -⟩ := h
  exact hyear

/-- The oldest archives may go, if the newest stay, as many as may be. -/
theorem full_of_prune {removed : List Bytes} {as new : List Kept} {limit gone : Nat}
    (hfull : removed = [] ∨ as.length = limit) (hgone : gone = (as ++ new).length - limit) :
    removed ++ ((as ++ new).take gone).map (·.content) = [] ∨ ((as ++ new).drop gone).length = limit := by
  rw [List.length_drop]
  rw [List.length_append] at hgone ⊢
  by_cases hzero : gone = 0
  · rcases hfull with hnil | hlength
    · exact Or.inl (by rw [hnil, hzero]; rfl)
    · exact Or.inr (by omega)
  · exact Or.inr (by omega)

/-- **A record** comes last, whether it rolls over or not. -/
theorem write (h : Unbroken σ policy records f d now) (hcount : records.length < UInt64.size)
    (hr : f.write record now d = (.ok (), f', d')) :
    Unbroken σ policy (records ++ [record]) f' d' now := by
  obtain ⟨as, removed, content, hyear, hsteady, htiled, hfull⟩ := h
  have hlength : (records ++ [record]).length = records.length + 1 := by simp
  rcases RollingFile.write_ok hsteady.holding.notClosed hr with ⟨-, -, happend⟩ | ⟨-, f₁, d₁, hroll, happend⟩
  · obtain ⟨hsteady', -, -⟩ := hsteady.stay happend
    exact ⟨as, removed, content ++ record, hyear, hsteady'.below (by omega), htiled.add, hfull⟩
  · rw [hsteady.samePolicy] at hroll
    obtain ⟨new, rest, gone, hgone, hsteady', hmoved, -, -, -, -⟩ := hsteady.rollOver hcount hroll happend
    refine ⟨(as ++ new).drop gone, removed ++ ((as ++ new).take gone).map (·.content), rest ++ record,
      hyear, ?_, ?_, full_of_prune hfull hgone⟩
    · refine hsteady'.below ?_
      rcases hmoved with ⟨-, rfl, -⟩ | ⟨-, hnew⟩
      · simp
      · have hone := congrArg List.length hnew
        rw [List.length_map, List.length_singleton] at hone
        omega
    · -- which archives are removed makes no difference to the records
      rw [List.append_assoc, ← List.map_append, List.take_append_drop, List.map_append, ← List.append_assoc]
      rcases hmoved with ⟨-, rfl, rfl⟩ | ⟨rfl, hnew⟩
      · rw [List.map_nil, List.append_nil]
        exact htiled.add
      · rw [hnew, List.nil_append]
        exact htiled.turn

/-- **Records one after another.** -/
theorem run {s s' : Track} (h : Unbroken σ policy records s.file s.disk now)
    (hcount : (records ++ more).length ≤ UInt64.size)
    (hr : s.run (more.map (fun record => Call.write record now)) = .ok s') :
    Unbroken σ policy (records ++ more) s'.file s'.disk now := by
  induction more generalizing records s with
  | nil =>
    cases hr
    rw [List.append_nil]
    exact h
  | cons record more ih =>
    obtain ⟨s₁, ht, hr⟩ := Track.run_cons_ok_iff.1 hr
    rw [List.length_append, List.length_cons] at hcount
    have h₁ := h.write (by omega) (Track.write_of_take ht)
    have h' := ih h₁ (by rw [List.length_append, List.length_append, List.length_singleton]; omega) hr
    rw [List.append_assoc] at h'
    exact h'

/-- **Records that go to the active file** one and all leave the period and the file as they are. -/
theorem run_inPlace {s s' : Track} (hopen : s.file.closed = false) (hw : s.file.writer = some w)
    (hplace : s.file.takesInPlace now more s.disk = true)
    (hr : s.run (more.map (fun record => Call.write record now)) = .ok s') :
    s'.file.period = s.file.period ∧ ∃ w', s'.file.writer = some w' ∧ w'.file = w.file := by
  induction more generalizing s w with
  | nil =>
    cases hr
    exact ⟨rfl, w, hw, rfl⟩
  | cons record more ih =>
    obtain ⟨s₁, ht, hr⟩ := Track.run_cons_ok_iff.1 hr
    have hwrite := Track.write_of_take ht
    unfold RollingFile.takesInPlace at hplace
    rw [hwrite, Bool.and_eq_true, Bool.not_eq_true'] at hplace
    rcases RollingFile.write_ok hopen hwrite with ⟨-, -, happend⟩ | ⟨hrolls, -⟩
    · obtain ⟨w₁, out, -, hfile, -, -, heq⟩ := RollingFile.appendRecord_ok hw happend
      have hopen₁ : s₁.file.closed = false := by rw [heq]; exact hopen
      have hw₁ : s₁.file.writer = some w₁ := by rw [heq]
      obtain ⟨hperiod, w', hw', hfile'⟩ := ih hopen₁ hw₁ hplace.2 hr
      refine ⟨hperiod.trans (by rw [heq]), w', hw', hfile'.trans hfile⟩
    · rw [hplace.1] at hrolls
      cases hrolls

/-- **Another goes on with the file** that the first one has handed over. Its period is not before that of the
first, and not ahead of the clock. -/
theorem handOver (h : Unbroken σ policy records f d now) (hw : f.writer = some w) (hd : f.Handed d d')
    (hsite : f₁.At σ) (hopen : f₁.closed = false) (hw₁ : f₁.writer = some { file := w.file })
    (hpolicy : f₁.policy = policy) (hperiod : ∃ t, f₁.period = policy.rotation.period t)
    (hle : f.period ≤ f₁.period) (hahead : f₁.period ≤ policy.rotation.period now) :
    Unbroken σ policy records f₁ d' now := by
  obtain ⟨as, removed, content, hyear, hsteady, htiled, hfull⟩ := h
  obtain ⟨w', written, hw', hact, rfl, hne⟩ := hsteady.holding.writer
  obtain rfl : w' = w := Option.some.inj (hw'.symm.trans hw)
  unfold RollingFile.Handed at hd
  rw [hw] at hd
  have hshelf := hsteady.holding.shelf.appended hd hne
  have hold : Holding σ f₁ d' as (written ++ w'.buffer) :=
    ⟨hsite, hopen, hshelf, ⟨_, written ++ w'.buffer, hw₁, hact.appended hd, (List.append_nil _).symm, hne⟩⟩
  refine ⟨as, removed, written ++ w'.buffer, hyear, ?_, htiled, hfull⟩
  constructor
  case holding => exact hold
  case samePolicy => exact hpolicy
  case index => exact hsteady.index
  case archives => exact fun a ha => (hsteady.archives a ha).trans hle
  case period => exact hperiod
  case notAhead => exact hahead

/-- **A log file that was just opened** is unbroken, with what it holds for the first record. -/
theorem of_open {path : String} {immediateFlush : Bool} {modified : Instant} {initial : Bytes}
    (ho : RollingFile.openAt path policy immediateFlush now modified d = (.ok f, d'))
    (hnone : f.archives d' = .ok []) (hread : d'.read path = .ok initial) (hyear : now.FourDigitYear)
    (hmodified : initial ≠ [] → modified ≤ now ∧ modified.FourDigitYear) :
    ∃ σ : LogSite, σ.path = path ∧ f.At σ ∧ Unbroken σ policy [initial] f d' now := by
  obtain ⟨σ, hpath, hstand, hpolicy, hperiod, -⟩ := Stand.of_open ho hnone hread
  have hahead : f.period ≤ policy.rotation.period now := by
    rw [hperiod]
    split
    · rename_i hlength
      obtain ⟨hle, hyear'⟩ := hmodified (List.length_pos_iff.1 hlength)
      exact policy.rotation.period_mono hle hyear' hyear
    · exact le_refl _
  refine ⟨σ, hpath, hstand.site, [], [], initial, hyear, ?_, ⟨[], [initial], rfl, rfl, by simp⟩, Or.inl rfl⟩
  constructor
  case holding => exact hstand.holding
  case samePolicy => exact hpolicy
  case index => simp
  case archives => simp
  case period => exact ⟨_, hperiod⟩
  case notAhead => exact hahead

/-- **What is to be read in the end**, when everything was handed over. -/
theorem read (h : Unbroken σ policy records f d clock) (hd : f.Handed d d') :
    ∃ paths removed contents active, (∀ g : RollingFile, g.At σ → g.archives d' = .ok paths) ∧
      paths.map d'.read = contents.map .ok ∧ d'.read σ.path = .ok active ∧
      Tiled records (removed ++ contents) active ∧ (removed = [] ∨ contents.length = policy.maxHistory) := by
  obtain ⟨as, removed, content, -, hsteady, htiled, hfull⟩ := h
  obtain ⟨w, written, hw, hact, rfl, hne⟩ := hsteady.holding.writer
  unfold RollingFile.Handed at hd
  rw [hw] at hd
  have hshelf := hsteady.holding.shelf.appended hd hne
  refine ⟨as.map (fun a => σ.pathOf a.key), removed, as.map (·.content), written ++ w.buffer,
    fun g hg => hshelf.archives hg, ?_, (hact.appended hd).read hshelf.below, htiled, ?_⟩
  · rw [List.map_map, List.map_map]
    exact List.map_congr_left (fun a ha => hshelf.read ha)
  · rw [List.length_map]
    exact hfull

end Unbroken

end ModuleHost
