import ModuleHost.Logging.Rolling
import ModuleHost.Proofs.Time.Calendar
import ModuleHost.Proofs.Logging.ArchiveName

/-!
# The track of a log file

What is done with a rolling log file over time, call after call, with the archives that are made and
removed on the way.

* `RollingFile.Call`: records, flushes, and opening the file anew.
* `RollingFile.archiveMade`, `RollingFile.archivesRemoved`: what one roll sets aside and removes.
* `Track.run`: a log file through a list of calls, up to the first that fails.
* `RollingFile.InOrder`: calls in periods that do not go back. `RollingFile.inOrder_of_forward`: so are all calls
  whose times do not go back, by the local clock.
-/

namespace ModuleHost

namespace RollingFile

/-- **What can be done** with a log file. -/
inductive Call where
  | write (record : Bytes) (now : Instant)
  | flush
  /-- Closed, and opened anew at the same path under the same policy. -/
  | reopen (immediateFlush : Bool) (now modified : Instant)

/-- The record that a call writes. -/
def Call.record? : Call → Option Bytes
  | .write record _ => some record
  | _ => none

/-- Whether writing a record rolls over. -/
def rolls (f : RollingFile) (record : Bytes) (now : Instant) : Bool :=
  !f.closed && f.mustRoll (f.policy.rotation.period now) record.length

/-- **What writing a record does**: it goes to the active file, or to the new one after a roll. -/
theorem write_ok {f f' : RollingFile} {d d' : Disk} {record : Bytes} {now : Instant}
    (hopen : f.closed = false) (h : f.write record now d = (.ok (), f', d')) :
    f.rolls record now = false ∧ f.policy.rotation.period now = f.period ∧
        f.appendRecord record d = (.ok (), f', d') ∨
      f.rolls record now = true ∧ ∃ f₁ d₁, f.roll (f.policy.rotation.period now) d = (.ok (), f₁, d₁) ∧
        f₁.appendRecord record d₁ = (.ok (), f', d') := by
  unfold write at h
  rw [if_neg (by rw [hopen]; simp)] at h
  simp only at h
  have hrolls : f.rolls record now = f.mustRoll (f.policy.rotation.period now) record.length := by
    unfold rolls
    rw [hopen, Bool.not_false, Bool.true_and]
  rw [hrolls]
  cases hroll : f.mustRoll (f.policy.rotation.period now) record.length with
  | false =>
    rw [hroll] at h
    unfold mustRoll at hroll
    rw [Bool.or_eq_false_iff] at hroll
    exact Or.inl ⟨rfl, by simpa using hroll.1, h⟩
  | true =>
    rw [hroll] at h
    simp only [if_true] at h
    split at h
    · cases h
    · rename_i f₁ d₁ hr
      exact Or.inr ⟨rfl, f₁, d₁, hr, h⟩

/-- A roll, by its two parts. -/
theorem roll_of_renew {f f₁ : RollingFile} {d d₁ d₂ : Disk} {next : String} {r : Except SystemError Unit}
    (hrenew : f.renew next d = (.ok (), f₁, d₁)) (hprune : f₁.prune d₁ = (r, d₂)) :
    f.roll next d = (r, f₁, d₂) := by
  unfold roll
  simp only [hrenew, hprune]

theorem roll_of_renew_error {f f₁ : RollingFile} {d d₁ : Disk} {next : String} {e : SystemError}
    (hrenew : f.renew next d = (.error e, f₁, d₁)) : f.roll next d = (.error e, f₁, d₁) := by
  unfold roll
  simp only [hrenew]

/-- A record that rolls over goes to the new file. -/
theorem write_of_roll {f f₁ : RollingFile} {d d₁ : Disk} {record : Bytes} {now : Instant}
    (hopen : f.closed = false) (hrolls : f.rolls record now = true)
    (hroll : f.roll (f.policy.rotation.period now) d = (.ok (), f₁, d₁)) :
    f.write record now d = f₁.appendRecord record d₁ := by
  unfold rolls at hrolls
  rw [hopen, Bool.not_false, Bool.true_and] at hrolls
  unfold write
  simp only [hopen, Bool.false_eq_true, if_false, hrolls, if_true, hroll]

/-- It is refused where the roll fails. -/
theorem write_of_roll_error {f f₁ : RollingFile} {d d₁ : Disk} {record : Bytes} {now : Instant} {e : SystemError}
    (hopen : f.closed = false) (hrolls : f.rolls record now = true)
    (hroll : f.roll (f.policy.rotation.period now) d = (.error e, f₁, d₁)) :
    f.write record now d = (.error e, f₁, d₁) := by
  unfold rolls at hrolls
  rw [hopen, Bool.not_false, Bool.true_and] at hrolls
  unfold write
  simp only [hopen, Bool.false_eq_true, if_false, hrolls, if_true, hroll]

/-- **The archive that a roll makes**: its path, and what the active file holds when it is set aside.
There is none if nothing was written. -/
def archiveMade (f : RollingFile) (d : Disk) : List (String × Bytes) :=
  match f.settle d with
  | (.ok (), f, d) =>
    if f.size = 0 then []
    else
      match f.nextArchive d, d.read f.path with
      | .ok target, .ok content => [(target, content)]
      | _, _ => []
  | _ => []

/-- **The archives that a roll removes** after it began a new file, each with what it holds. -/
def archivesRemoved (f : RollingFile) (next : String) (d : Disk) : List (String × Bytes) :=
  match f.renew next d with
  | (.ok (), f, d) =>
    match f.excess d with
    | .ok paths => paths.filterMap (fun path => (d.read path).toOption.map (fun content => (path, content)))
    | .error _ => []
  | _ => []

/-- **Calls in the order of periods**, after the last record was written and with the clock where it is: the
period that the clock shows never has a text before that of an earlier one. A file that is opened anew shows a
last change whose period is not before that of the last record, and not ahead of the clock. -/
def InOrder (r : Rotation) : Option Instant → Instant → List Call → Prop
  | _, _, [] => True
  | _, clock, .write _ now :: cs => r.period clock ≤ r.period now ∧ InOrder r (some now) now cs
  | last, clock, .flush :: cs => InOrder r last clock cs
  | last, clock, .reopen _ now modified :: cs =>
    r.period clock ≤ r.period now ∧
      ((∀ t ∈ last, r.period t ≤ r.period modified) ∧ r.period modified ≤ r.period now) ∧ InOrder r last now cs

instance decidableInOrder (r : Rotation) :
    ∀ (last : Option Instant) (clock : Instant) (cs : List Call), Decidable (InOrder r last clock cs)
  | _, _, [] => isTrue trivial
  | _, clock, .write _ now :: cs =>
    have := decidableInOrder r (some now) now cs
    inferInstanceAs (Decidable (r.period clock ≤ r.period now ∧ InOrder r (some now) now cs))
  | last, clock, .flush :: cs => decidableInOrder r last clock cs
  | last, clock, .reopen _ now modified :: cs =>
    have := decidableInOrder r last now cs
    inferInstanceAs (Decidable (r.period clock ≤ r.period now ∧
      ((∀ t ∈ last, r.period t ≤ r.period modified) ∧ r.period modified ≤ r.period now) ∧ InOrder r last now cs))

/-- **Calls at times that do not go back** by the local clock, in years of four digits. A file that is opened anew
shows a last change that is not before the last record and not in the future. -/
def Forward : Option Instant → Instant → List Call → Prop
  | _, _, [] => True
  | _, clock, .write _ now :: cs => (clock ≤ now ∧ now.FourDigitYear) ∧ Forward (some now) now cs
  | last, clock, .flush :: cs => Forward last clock cs
  | last, clock, .reopen _ now modified :: cs =>
    (clock ≤ now ∧ now.FourDigitYear) ∧
      ((∀ t ∈ last, t ≤ modified) ∧ modified ≤ now ∧ modified.FourDigitYear) ∧ Forward last now cs

/-- **As long as the local clock is not put back**, periods do not go back either, whatever the rotation. -/
theorem inOrder_of_forward (r : Rotation) {last : Option Instant} {clock : Instant} {cs : List Call}
    (hclock : clock.FourDigitYear) (hlast : ∀ t ∈ last, t.FourDigitYear) (h : Forward last clock cs) :
    InOrder r last clock cs := by
  induction cs generalizing last clock with
  | nil => trivial
  | cons c cs ih =>
    cases c with
    | write record now =>
      obtain ⟨⟨hle, hyear⟩, hcs⟩ := h
      exact ⟨r.period_mono hle hclock hyear, ih hyear (fun t ht => Option.some.inj ht ▸ hyear) hcs⟩
    | flush => exact ih hclock hlast h
    | reopen immediateFlush now modified =>
      obtain ⟨⟨hle, hyear⟩, ⟨hafter, hmodified, hyear'⟩, hcs⟩ := h
      refine ⟨r.period_mono hle hclock hyear, ⟨fun t ht => ?_, r.period_mono hmodified hyear' hyear⟩,
        ih hyear hlast hcs⟩
      exact r.period_mono (hafter t ht) (hlast t ht) hyear'

end RollingFile

/-- **A log file under way** on its disk, with the archives made and removed so far, in that order. -/
structure Track where
  file : RollingFile
  disk : Disk
  made : List (String × Bytes) := []
  removed : List (String × Bytes) := []

namespace Track

open RollingFile (Call)

/-- **One call**, if it succeeds. -/
def take (s : Track) : Call → Except SystemError Track
  | .write record now =>
    match s.file.write record now s.disk with
    | (.error e, _, _) => .error e
    | (.ok (), f, d) =>
      if s.file.rolls record now then
        .ok {
          file := f
          disk := d
          made := s.made ++ s.file.archiveMade s.disk
          removed := s.removed ++ s.file.archivesRemoved (s.file.policy.rotation.period now) s.disk }
      else .ok { s with file := f, disk := d }
  | .flush =>
    match s.file.flush s.disk with
    | (.error e, _, _) => .error e
    | (.ok (), f, d) => .ok { s with file := f, disk := d }
  | .reopen immediateFlush now modified =>
    match s.file.close s.disk with
    | (.error e, _, _) => .error e
    | (.ok (), _, d) =>
      match RollingFile.openAt s.file.path s.file.policy immediateFlush now modified d with
      | (.error e, _) => .error e
      | (.ok f, d) => .ok { s with file := f, disk := d }

/-- **Some calls**, if all of them succeed. -/
def run (s : Track) : List Call → Except SystemError Track
  | [] => .ok s
  | c :: cs =>
    match s.take c with
    | .ok s => s.run cs
    | .error e => .error e

theorem ok_of_toOption {ε α : Type} {x : Except ε α} {a : α} (h : x.toOption = some a) : x = .ok a := by
  cases x with
  | error e => cases h
  | ok b => rw [Option.some.inj h]

theorem run_cons_ok_iff {s s' : Track} {c : Call} {cs : List Call} :
    s.run (c :: cs) = .ok s' ↔ ∃ s₁, s.take c = .ok s₁ ∧ s₁.run cs = .ok s' := by
  rw [run]
  split
  · rename_i s₁ h
    simp [h]
  · rename_i e h
    simp [h]

theorem run_append_ok_iff {s s' : Track} {cs cs' : List Call} :
    s.run (cs ++ cs') = .ok s' ↔ ∃ s₁, s.run cs = .ok s₁ ∧ s₁.run cs' = .ok s' := by
  induction cs generalizing s with
  | nil => simp [run]
  | cons c cs ih =>
    simp only [List.cons_append, run_cons_ok_iff, ih]
    constructor
    · rintro ⟨s₁, h₁, s₂, h₂, h⟩
      exact ⟨s₂, ⟨s₁, h₁, h₂⟩, h⟩
    · rintro ⟨s₂, ⟨s₁, h₁, h₂⟩, h⟩
      exact ⟨s₁, h₁, s₂, h₂, h⟩

/-- Archives that were made stay on the list. -/
theorem made_le_of_take {s s' : Track} {c : Call} (h : s.take c = .ok s') :
    s.made.length ≤ s'.made.length := by
  cases c with
  | write record now =>
    unfold take at h
    simp only at h
    split at h
    · cases h
    split at h
    · cases h
      exact List.length_append ▸ Nat.le_add_right _ _
    · cases h
      exact le_refl _
  | flush =>
    unfold take at h
    simp only at h
    split at h
    · cases h
    · cases h
      exact le_refl _
  | reopen immediateFlush now modified =>
    unfold take at h
    simp only at h
    split at h
    · cases h
    split at h
    · cases h
    · cases h
      exact le_refl _

theorem made_le_of_run {s s' : Track} {cs : List Call} (h : s.run cs = .ok s') :
    s.made.length ≤ s'.made.length := by
  induction cs generalizing s with
  | nil =>
    cases h
    exact le_refl _
  | cons c cs ih =>
    obtain ⟨s₁, ht, hr⟩ := run_cons_ok_iff.1 h
    exact (made_le_of_take ht).trans (ih hr)

/-- **What a record does**: it goes to the active file, or to the new one after a roll. -/
theorem take_write_ok {s s' : Track} {record : Bytes} {now : Instant} (hopen : s.file.closed = false)
    (h : s.take (.write record now) = .ok s') :
    s.file.rolls record now = false ∧ s.file.policy.rotation.period now = s.file.period ∧
        (∃ f d, s.file.appendRecord record s.disk = (.ok (), f, d) ∧ s' = { s with file := f, disk := d }) ∨
      s.file.rolls record now = true ∧
        ∃ f₁ d₁ f d, s.file.roll (s.file.policy.rotation.period now) s.disk = (.ok (), f₁, d₁) ∧
          f₁.appendRecord record d₁ = (.ok (), f, d) ∧
          s' = {
            file := f
            disk := d
            made := s.made ++ s.file.archiveMade s.disk
            removed := s.removed ++
              s.file.archivesRemoved (s.file.policy.rotation.period now) s.disk } := by
  unfold take at h
  simp only at h
  split at h
  · cases h
  rename_i f d hwrite
  rcases RollingFile.write_ok hopen hwrite with ⟨hrolls, hsame, hr⟩ | ⟨hrolls, f₁, d₁, hroll, hr⟩
  · rw [hrolls] at h
    cases h
    exact Or.inl ⟨hrolls, hsame, f, d, hr, rfl⟩
  · rw [hrolls] at h
    cases h
    exact Or.inr ⟨hrolls, f₁, d₁, f, d, hroll, hr, rfl⟩

/-- **A record that rolls over, step by step**: a new file is begun, the archives in excess are removed, and the
record goes to the new file. -/
theorem take_of_excess {s : Track} {record : Bytes} {now : Instant} {f₁ f : RollingFile} {d₁ d₂ d : Disk}
    {paths : List String} (hopen : s.file.closed = false) (hrolls : s.file.rolls record now = true)
    (hrenew : s.file.renew (s.file.policy.rotation.period now) s.disk = (.ok (), f₁, d₁))
    (hexcess : f₁.excess d₁ = .ok paths) (hgone : RollingFile.removeAll paths d₁ = (.ok (), d₂))
    (happend : f₁.appendRecord record d₂ = (.ok (), f, d)) :
    s.take (.write record now) = .ok {
      file := f
      disk := d
      made := s.made ++ s.file.archiveMade s.disk
      removed := s.removed ++
        paths.filterMap (fun path => (d₁.read path).toOption.map (fun content => (path, content))) } := by
  have hprune : f₁.prune d₁ = (.ok (), d₂) := by
    unfold RollingFile.prune
    rw [hexcess]
    exact hgone
  have hwrite : s.file.write record now s.disk = (.ok (), f, d) := by
    rw [RollingFile.write_of_roll hopen hrolls (RollingFile.roll_of_renew hrenew hprune), happend]
  unfold take RollingFile.archivesRemoved
  simp only [hwrite, hrolls, if_true, hrenew, hexcess]

end Track

end ModuleHost
