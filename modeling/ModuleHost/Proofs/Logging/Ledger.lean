import Mathlib
import ModuleHost.Proofs.Logging.Footing

/-!
# A failed write leaves nothing behind

What is in a log file and what was ever taken into it, compared through records and flushes of which any may fail,
on a device that has room or has none.

* `Ledger`: a log file with the archives made, those of them not pruned, and the bytes of the records that were
  taken.
* `Ledger.Whole`: the files and the buffer hold what was taken, no more and no less, and the size is right.
* `RollingFile.Refusal`: the two places where a refused buffer breaks that.
* `Ledger.failed_write_atomic`: **without a refusal everything stays whole, whatever fails, and with one it does
  not.**
-/

namespace ModuleHost

open Disk (Appended Below Rooted)

namespace RollingFile

/-- **What can be done** with a log file, and what can become of the device under it. -/
inductive Deed where
  | write (record : Bytes) (now : Instant)
  | flush
  /-- From now on every file takes as many bytes more as this says. -/
  | device (room : NodeId → Option Nat)

/-- The archive that a record sets aside before it is written, if it begins a new file. -/
def setsAside (f : RollingFile) (record : Bytes) (now : Instant) (d : Disk) : List (String × Bytes) :=
  if f.rolls record now then
    match f.renew (f.policy.rotation.period now) d with
    | (.ok (), _, _) => f.archiveMade d
    | (.error _, _, _) => []
  else []

/-- The archives that are removed for a record before it is written. -/
def clears (f : RollingFile) (record : Bytes) (now : Instant) (d : Disk) : List String :=
  if f.rolls record now then
    match f.renew (f.policy.rotation.period now) d with
    | (.ok (), f, d) => f.pruned d
    | (.error _, _, _) => []
  else []

/-- **The device refuses the buffer at the wrong time**: when a roll has let go of the writer already, or when a
record was taken already. -/
inductive Refusal (f : RollingFile) (record : Bytes) (now : Instant) (d : Disk) : Prop
  /-- The buffer is to be handed over before a roll. -/
  | atRoll (hrolls : f.rolls record now = true) {e : SystemError} (hsettle : (f.settle d).1 = .error e)
  /-- The record is in the buffer, and is to be handed over at once. -/
  | atRecord (hrolls : f.rolls record now = false) (h : f.Halfway record d)
  /-- The same after a roll. -/
  | afterRoll (hrolls : f.rolls record now = true) {f₁ : RollingFile} {d₁ : Disk}
      (hroll : f.roll (f.policy.rotation.period now) d = (.ok (), f₁, d₁)) (h : f₁.Halfway record d₁)

end RollingFile

variable {σ : LogSite} {f f' f₁ : RollingFile} {d d' d₁ : Disk} {as : List Kept} {i k : NodeId}
  {written content record : Bytes} {n : Nat} {now : Instant} {next : String} {r : Except SystemError Unit}

/-! ### How a record comes out -/

namespace RollingFile

theorem Halfway.error (h : f.Halfway record d) : ∃ e, (f.appendRecord record d).1 = .error e := by
  obtain ⟨-, himmediate, w, d₁, w₁, d₂, e, hensure, hput, hflush⟩ := h
  unfold appendRecord
  rw [hensure]
  simp only [hput, himmediate, if_true]
  split
  · exact ⟨_, rfl⟩
  · rename_i hok
    rw [hok] at hflush
    cases hflush

/-- **A refusal is told.** -/
theorem Refusal.error (hopen : f.closed = false) (h : f.Refusal record now d) :
    ∃ e, (f.write record now d).1 = .error e := by
  cases h with
  | @atRoll hrolls e hsettle =>
    rcases hs : f.settle d with ⟨r, f₁, d₁⟩
    rw [hs] at hsettle
    simp only at hsettle
    subst hsettle
    have hrenew : f.renew (f.policy.rotation.period now) d = (.error e, f₁, d₁) := by
      unfold renew
      simp only [hs]
    exact ⟨e, by rw [write_of_roll_error hopen hrolls (roll_of_renew_error hrenew)]⟩
  | atRecord hrolls hhalf =>
    rw [write_of_stays hopen hrolls]
    exact hhalf.error
  | afterRoll hrolls hroll hhalf =>
    rw [write_of_roll hopen hrolls hroll]
    exact hhalf.error

/-- **How a record comes out**, when the active file and the buffer hold `after` in the end, and held `before`.
With a refusal, the size misses the record that is there. -/
inductive CameOut (f f' : RollingFile) (before record after : Bytes) (refused : Prop) :
  Except SystemError Unit → Prop
  | taken (hbytes : after = before ++ record) (hsize : f'.size = after.length) (h : ¬ refused) :
    CameOut f f' before record after refused (.ok ())
  | left {e : SystemError} (hbytes : after = before) (hsize : f'.size = after.length) (hsame : f'.size = f.size)
      (h : ¬ refused) : CameOut f f' before record after refused (.error e)
  | miscounted {e : SystemError} (hbytes : after = before ++ record) (hsize : f'.size < after.length)
      (h : refused) : CameOut f f' before record after refused (.error e)

end RollingFile

namespace Footing

open RollingFile (Refusal Halfway Moved CameOut)

/-- **A record at the active file** comes out in one of three ways. -/
theorem appendRecord (h : Footing σ f d as i written n) (hrooted : σ.base.Rooted)
    (hsize : f.size = (written ++ f.buffered).length) (hr : f.appendRecord record d = (r, f', d')) :
    ∃ written', Footing σ f' d' as i written' n ∧
      CameOut f f' (written ++ f.buffered) record (written' ++ f'.buffered) (f.Halfway record d) r := by
  rcases RollingFile.appendRecord_cases h.writer (fun _ => h.openAppend_eq hrooted) hr with
    ⟨rfl, hmoved, hsize', hhalf⟩ | ⟨⟨e, rfl⟩, hsize', ⟨hmoved, hhalf⟩ | ⟨hmoved, hhalf⟩⟩
  all_goals obtain ⟨written', hfoot, hbytes⟩ := h.moved hmoved
  all_goals refine ⟨written', hfoot, ?_⟩
  · refine .taken hbytes ?_ hhalf
    simp only [hsize', hsize, hbytes, List.length_append]
  · rw [List.append_nil] at hbytes
    refine .left hbytes ?_ hsize' hhalf
    rw [hsize', hsize, hbytes]
  · refine .miscounted hbytes ?_ hhalf
    have hpos := List.length_pos_iff.2 hhalf.1
    simp only [hsize', hsize, hbytes, List.length_append]
    omega

end Footing

/-! ### The ledger -/

/-- **A log file under way** on its disk, with the archives made so far, those of them that were not pruned, and
the bytes of the records whose writing succeeded, in that order. -/
structure Ledger where
  file : RollingFile
  disk : Disk
  made : List (String × Bytes) := []
  kept : List (String × Bytes) := []
  accepted : Bytes := []

namespace Ledger

open RollingFile (Deed CameOut Refusal)

/-- **One call**, whatever comes of it. -/
def take (l : Ledger) : Deed → Ledger
  | .write record now =>
    let new := l.file.setsAside record now l.disk
    match l.file.write record now l.disk with
    | (r, f, d) => {
        file := f
        disk := d
        made := l.made ++ new
        kept := (l.kept ++ new).filter (fun a => a.1 ∉ l.file.clears record now l.disk)
        accepted := l.accepted ++ (if r = .ok () then record else []) }
  | .flush =>
    match l.file.flush l.disk with
    | (_, f, d) => { l with file := f, disk := d }
  | .device room => { l with disk := l.disk.refit room }

/-- **Some calls.** -/
def run (l : Ledger) (deeds : List Deed) : Ledger :=
  deeds.foldl take l

/-- **The books are right**: what was set aside, what the active file holds and what is in the buffer are what was
there at first and what was taken since, byte for byte; the size is that of the active file with the buffer; and
the archives that were made and not pruned can be read. -/
structure Whole (σ : LogSite) (initial : Bytes) (l : Ledger) : Prop where
  active : ∃ i written, Active σ l.disk i written ∧ (∀ w ∈ l.file.writer, w.file = i) ∧
    l.file.size = (written ++ l.file.buffered).length ∧
    (l.made.map (·.2)).flatten ++ (written ++ l.file.buffered) = initial ++ l.accepted
  archives : ∀ a ∈ l.kept, l.disk.read a.1 = .ok a.2

/-- The same, with what the file rests on. -/
structure Sound (σ : LogSite) (initial : Bytes) (l : Ledger) (as : List Kept) (i : NodeId) (written : Bytes)
    (n : Nat) : Prop where
  footing : Footing σ l.file l.disk as i written n
  size : l.file.size = (written ++ l.file.buffered).length
  bytes : (l.made.map (·.2)).flatten ++ (written ++ l.file.buffered) = initial ++ l.accepted
  kept : l.kept = as.map (fun a => a.item σ)

variable {initial before accepted : Bytes} {l : Ledger} {made : List (String × Bytes)} {refused : Prop}

theorem Sound.whole (h : Sound σ initial l as i written n) : l.Whole σ initial := by
  refine ⟨⟨i, written, h.footing.active, h.footing.writer, h.size, h.bytes⟩, fun a ha => ?_⟩
  rw [h.kept] at ha
  obtain ⟨b, hb, rfl⟩ := List.mem_map.1 ha
  obtain ⟨hon, hentry, -⟩ := h.footing.archives b hb
  obtain ⟨above, es, hD⟩ := LogSite.isDir_above h.footing.below
  exact hon.read h.footing.below hD ((Disk.entryAt_eq_ok_iff hD hon.fits.dots).1 hentry).2

/-- **With a wrong size** the books are not right. -/
theorem not_whole_of_size (h : Footing σ l.file l.disk as i written n)
    (hsize : l.file.size ≠ (written ++ l.file.buffered).length) : ¬ l.Whole σ initial := by
  rintro ⟨⟨j, written', hact, -, hsize', -⟩, -⟩
  obtain ⟨-, rfl⟩ := h.active.unique hact
  exact hsize hsize'

/-- **A record at the active file** keeps the books right, unless it is refused half way. -/
theorem of_cameOut (h : Footing σ f' d' as i written n)
    (hcame : CameOut f f' before record (written ++ f'.buffered) refused r)
    (hbytes : (made.map (·.2)).flatten ++ before = initial ++ accepted) :
    let l' : Ledger := ⟨f', d', made, as.map (fun a => a.item σ), accepted ++ (if r = .ok () then record else [])⟩
    (refused → ¬ l'.Whole σ initial) ∧
      (¬ refused → Sound σ initial l' as i written n ∧ (r ≠ .ok () → f'.size = f.size)) := by
  intro l'
  cases hcame with
  | taken hafter hsize hcalm =>
    refine ⟨fun hrefused => (hcalm hrefused).elim, fun _ => ⟨⟨h, hsize, ?_, rfl⟩, fun hr => (hr rfl).elim⟩⟩
    show (made.map (·.2)).flatten ++ (written ++ f'.buffered) = initial ++ (accepted ++ _)
    rw [hafter, if_pos rfl, ← List.append_assoc, hbytes, List.append_assoc]
  | left hafter hsize hsame hcalm =>
    refine ⟨fun hrefused => (hcalm hrefused).elim, fun _ => ⟨⟨h, hsize, ?_, rfl⟩, fun _ => hsame⟩⟩
    show (made.map (·.2)).flatten ++ (written ++ f'.buffered) = initial ++ (accepted ++ _)
    rw [hafter, if_neg (by simp), List.append_nil, hbytes]
  | miscounted _ hsize hrefused =>
    exact ⟨fun _ => not_whole_of_size h (Nat.ne_of_lt hsize), fun hcalm => (hcalm hrefused).elim⟩

/-- **What a call comes to**: with a refusal the books are wrong afterwards; without one they are right, and if
the call failed all the same, the size is as before, or nothing is in the active file since a roll was
completed. -/
structure Outcome (σ : LogSite) (initial : Bytes) (l l' : Ledger) (n : Nat) (failed refused : Prop) : Prop where
  wrong : refused → ¬ l'.Whole σ initial
  right : ¬ refused → ∃ as i written m, m ≤ n + 1 ∧ Sound σ initial l' as i written m
  size : ¬ refused → failed → l'.accepted = l.accepted ∧
    (l'.file.size = l.file.size ∧ l'.made = l.made ∨ l'.file.size = 0 ∧ ∃ a, l'.made = l.made ++ [a])

/-- **A record that stays** in the active file. -/
theorem Sound.write_stays (h : Sound σ initial l as i written n) (hrooted : σ.base.Rooted)
    (hrolls : l.file.rolls record now = false) :
    Outcome σ initial l (l.take (.write record now)) n ((l.file.write record now l.disk).1 ≠ .ok ())
      (l.file.Refusal record now l.disk) := by
  rcases hr : l.file.write record now l.disk with ⟨r, f', d'⟩
  have htake : l.take (.write record now) =
      ⟨f', d', l.made, as.map (fun a => a.item σ), l.accepted ++ (if r = .ok () then record else [])⟩ := by
    unfold take RollingFile.setsAside RollingFile.clears
    simp [hr, hrolls, h.kept]
  have hrefusal : l.file.Refusal record now l.disk ↔ l.file.Halfway record l.disk := by
    constructor
    · rintro (⟨hrolls', -⟩ | ⟨-, hhalf⟩ | ⟨hrolls', -⟩)
      · rw [hrolls] at hrolls'
        cases hrolls'
      · exact hhalf
      · rw [hrolls] at hrolls'
        cases hrolls'
    · exact .atRecord hrolls
  rw [RollingFile.write_of_stays h.footing.notClosed hrolls] at hr
  obtain ⟨written', hfoot, hcame⟩ := h.footing.appendRecord hrooted h.size hr
  obtain ⟨hwrong, hright⟩ := of_cameOut hfoot hcame h.bytes
  rw [htake, hrefusal]
  refine ⟨hwrong, fun hcalm => ⟨_, _, _, n, by omega, (hright hcalm).1⟩, fun hcalm hfailed => ?_⟩
  exact ⟨by simp [hfailed], Or.inl ⟨(hright hcalm).2 hfailed, rfl⟩⟩

/-- **A record that rolls over**, once a new file is begun. -/
theorem Sound.write_begun {new : List Kept} {m : Nat} {rest : Bytes} (h : Sound σ initial l as i written n)
    (hrooted : σ.base.Rooted) (hrolls : l.file.rolls record now = true)
    (hsettle : (l.file.settle l.disk).1 = .ok ())
    (hrenew : l.file.renew (l.file.policy.rotation.period now) l.disk = (.ok (), f₁, d₁))
    (hfoot : Footing σ f₁ d₁ (as ++ new) k rest m) (hm : m ≤ n + 1) (hsize : f₁.size = 0)
    (hempty : rest ++ f₁.buffered = []) (hmade : l.file.archiveMade l.disk = new.map (fun a => a.item σ))
    (hbytes : ((l.made ++ new.map (fun a => a.item σ)).map (·.2)).flatten = initial ++ l.accepted)
    (hnew : new = [] ∧ l.file.size = 0 ∨ ∃ a, new = [a]) :
    Outcome σ initial l (l.take (.write record now)) n ((l.file.write record now l.disk).1 ≠ .ok ())
      (l.file.Refusal record now l.disk) := by
  have hlast := hfoot.prune
  rcases hprune : f₁.prune d₁ with ⟨r₂, d₂⟩
  have hroll := RollingFile.roll_of_renew hrenew hprune
  rw [hprune] at hlast
  generalize hleft : (as ++ new).filter (fun a => σ.pathOf a.key ∉ f₁.pruned d₁) = left at hlast
  rcases hr : l.file.write record now l.disk with ⟨r, f', d'⟩
  have htake : l.take (.write record now) =
      ⟨f', d', l.made ++ new.map (fun a => a.item σ), left.map (fun a => a.item σ),
        l.accepted ++ (if r = .ok () then record else [])⟩ := by
    unfold take RollingFile.setsAside RollingFile.clears
    simp only [hr, hrolls, if_true, hrenew, hmade, h.kept, ← List.map_append, List.filter_map, ← hleft]
    rfl
  rw [htake]
  -- whether the size was reset or was nothing before
  have hreset : ∀ size, size = 0 → size = l.file.size ∧ l.made ++ new.map (fun a => a.item σ) = l.made ∨
      size = 0 ∧ ∃ a, l.made ++ new.map (fun a => a.item σ) = l.made ++ [a] := by
    rintro size rfl
    obtain ⟨rfl, hzero⟩ | ⟨a, rfl⟩ := hnew
    · exact Or.inl ⟨hzero.symm, by simp⟩
    · exact Or.inr ⟨rfl, a.item σ, by simp⟩
  have hzero : f₁.size = (rest ++ f₁.buffered).length := by
    rw [hsize, hempty]
    rfl
  have hbytes' : ((l.made ++ new.map (fun a => a.item σ)).map (·.2)).flatten ++ (rest ++ f₁.buffered) =
      initial ++ l.accepted := by
    rw [hempty, List.append_nil, hbytes]
  cases r₂ with
  | error e =>
    rw [RollingFile.write_of_roll_error h.footing.notClosed hrolls hroll] at hr
    cases hr
    have hcalm : ¬ l.file.Refusal record now l.disk := by
      rintro (⟨-, hsettle'⟩ | ⟨hrolls', -⟩ | ⟨-, hroll', -⟩)
      · rw [hsettle] at hsettle'
        cases hsettle'
      · rw [hrolls] at hrolls'
        cases hrolls'
      · rw [hroll] at hroll'
        cases hroll'
    refine ⟨fun hrefusal => (hcalm hrefusal).elim, fun _ => ⟨left, k, rest, m, hm, hlast, hzero, ?_, rfl⟩,
      fun _ _ => ⟨by simp, hreset _ hsize⟩⟩
    simpa using hbytes'
  | ok _ =>
    rw [RollingFile.write_of_roll h.footing.notClosed hrolls hroll] at hr
    obtain ⟨written', hfoot', hcame⟩ := hlast.appendRecord hrooted hzero hr
    have hrefusal : l.file.Refusal record now l.disk ↔ f₁.Halfway record d₂ := by
      constructor
      · rintro (⟨-, hsettle'⟩ | ⟨hrolls', -⟩ | ⟨-, hroll', hhalf⟩)
        · rw [hsettle] at hsettle'
          cases hsettle'
        · rw [hrolls] at hrolls'
          cases hrolls'
        · rw [hroll] at hroll'
          cases hroll'
          exact hhalf
      · exact .afterRoll hrolls hroll
    obtain ⟨hwrong, hright⟩ := of_cameOut hfoot' hcame hbytes'
    rw [hrefusal]
    refine ⟨hwrong, fun hcalm => ⟨_, _, _, m, hm, (hright hcalm).1⟩, fun hcalm hfailed => ?_⟩
    exact ⟨by simp [hfailed], hreset _ (((hright hcalm).2 hfailed).trans hsize)⟩

/-- **A record that rolls over.** -/
theorem Sound.write_rolls (h : Sound σ initial l as i written n) (hrooted : σ.base.Rooted)
    (hword : n + 1 < UInt64.size) (hrolls : l.file.rolls record now = true) :
    Outcome σ initial l (l.take (.write record now)) n ((l.file.write record now l.disk).1 ≠ .ok ())
      (l.file.Refusal record now l.disk) := by
  rcases hrenew : l.file.renew (l.file.policy.rotation.period now) l.disk with ⟨r₁, f₁, d₁⟩
  have hfailed : ∀ e, r₁ = .error e → l.take (.write record now) =
        ⟨f₁, d₁, l.made, as.map (fun a => a.item σ), l.accepted⟩ ∧
      (l.file.Refusal record now l.disk ↔ ∃ e, (l.file.settle l.disk).1 = .error e) := by
    rintro e rfl
    constructor
    · unfold take RollingFile.setsAside RollingFile.clears
      simp [RollingFile.write_of_roll_error h.footing.notClosed hrolls (RollingFile.roll_of_renew_error hrenew),
        hrolls, hrenew, h.kept]
    · constructor
      · rintro (⟨-, hsettle⟩ | ⟨hrolls', -⟩ | ⟨-, hroll, -⟩)
        · exact ⟨_, hsettle⟩
        · rw [hrolls] at hrolls'
          cases hrolls'
        · rw [RollingFile.roll_of_renew_error hrenew] at hroll
          cases hroll
      · rintro ⟨e, hsettle⟩
        exact .atRoll hrolls hsettle
  rcases h.footing.renew_cases hrooted hword ⟨now, rfl⟩ hrenew with
    ⟨e, hsettle, rfl, rfl, rfl⟩ | ⟨hsettle, ⟨⟨e, rfl⟩, rfl, hfoot⟩ | ⟨rfl, hzero, rfl, hfoot, hmade⟩ |
      ⟨rfl, -, k, a, rfl, hcontent, hmade, hfoot⟩⟩
  · -- the buffer is refused, and lost
    obtain ⟨htake, hrefusal⟩ := hfailed e rfl
    have hyes : l.file.Refusal record now l.disk := hrefusal.2 ⟨e, hsettle⟩
    rw [htake]
    refine ⟨fun _ => ?_, fun hcalm => (hcalm hyes).elim, fun hcalm => (hcalm hyes).elim⟩
    rcases hs : l.file.settle l.disk with ⟨r, f', d'⟩
    rw [hs] at hsettle
    simp only at hsettle
    subst hsettle
    obtain ⟨-, -, w, hw, hne⟩ := RollingFile.settle_error hs
    have hfoot : Footing σ { l.file with writer := none } l.disk as i written n :=
      h.footing.congr ⟨rfl, rfl, rfl, rfl, rfl, rfl⟩ h.footing.opened.period (by simp)
    refine not_whole_of_size hfoot ?_
    have hbuffered : l.file.buffered = w.buffer := by
      unfold RollingFile.buffered
      rw [hw]
    have hlength := h.size
    rw [hbuffered, List.length_append] at hlength
    have hpos := List.length_pos_iff.2 hne
    simp [RollingFile.buffered]
    omega
  · -- the active file could not be set aside, and holds everything
    obtain ⟨htake, hrefusal⟩ := hfailed e rfl
    have hcalm : ¬ l.file.Refusal record now l.disk := by
      rw [hrefusal, hsettle]
      simp
    rw [htake]
    refine ⟨fun hyes => (hcalm hyes).elim, fun _ => ⟨as, i, _, n, by omega, hfoot, ?_, ?_, rfl⟩,
      fun _ _ => ⟨rfl, Or.inl ⟨rfl, rfl⟩⟩⟩
    · simpa [RollingFile.buffered] using h.size
    · simpa [RollingFile.buffered] using h.bytes
  · -- the file was empty and stays in use
    have hnil : written ++ l.file.buffered = [] := List.length_eq_zero_iff.1 (h.size.symm.trans hzero)
    have hfoot' : Footing σ (l.file.begun i (l.file.policy.rotation.period now)) d₁ (as ++ [])
        i (written ++ l.file.buffered) n := by
      rw [List.append_nil]
      exact hfoot
    refine h.write_begun hrooted hrolls hsettle hrenew hfoot' (by omega) rfl ?_ hmade ?_ (Or.inl ⟨rfl, hzero⟩)
    · rw [hnil]
      rfl
    · have hbytes := h.bytes
      rw [hnil, List.append_nil] at hbytes
      simpa using hbytes
  · -- it is in a new archive
    refine h.write_begun hrooted hrolls hsettle hrenew hfoot (le_refl _) rfl rfl hmade ?_ (Or.inr ⟨a, rfl⟩)
    have hbytes := h.bytes
    simp only [List.map_append, List.map_singleton, List.flatten_append]
    simpa [Kept.item, hcontent] using hbytes

/-! ### Any calls -/

/-- A flush. -/
theorem Sound.flush (h : Sound σ initial l as i written n) :
    ∃ written, Sound σ initial (l.take .flush) as i written n := by
  rcases hr : l.file.flush l.disk with ⟨r, f', d'⟩
  have htake : l.take .flush = { l with file := f', disk := d' } := by
    unfold take
    simp only [hr]
  obtain ⟨hmoved, hsize⟩ := RollingFile.flush_moved h.footing.writer hr
  obtain ⟨written', hfoot, hbytes⟩ := h.footing.moved hmoved
  rw [List.append_nil] at hbytes
  rw [htake]
  refine ⟨written', hfoot, ?_, ?_, h.kept⟩
  · show f'.size = _
    rw [hsize, h.size, hbytes]
  · show _ ++ (written' ++ f'.buffered) = _
    rw [hbytes]
    exact h.bytes

/-- Whether a call meets a refusal. -/
def Refuses (l : Ledger) : Deed → Prop
  | .write record now => l.file.Refusal record now l.disk
  | _ => False

/-- **No call meets a refusal.** -/
def Calm : Ledger → List Deed → Prop
  | _, [] => True
  | l, deed :: deeds => ¬ l.Refuses deed ∧ Calm (l.take deed) deeds

/-- **A record** comes to what it should, whether it rolls over or not. -/
theorem Sound.write (h : Sound σ initial l as i written n) (hrooted : σ.base.Rooted) (hword : n + 1 < UInt64.size)
    (record : Bytes) (now : Instant) :
    Outcome σ initial l (l.take (.write record now)) n ((l.file.write record now l.disk).1 ≠ .ok ())
      (l.file.Refusal record now l.disk) := by
  cases hrolls : l.file.rolls record now with
  | false => exact h.write_stays hrooted hrolls
  | true => exact h.write_rolls hrooted hword hrolls

/-- **One call** without a refusal keeps the books right, whether it succeeds or fails. -/
theorem Sound.take {deed : Deed} (h : Sound σ initial l as i written n) (hrooted : σ.base.Rooted)
    (hword : n + 1 < UInt64.size) (hcalm : ¬ l.Refuses deed) :
    ∃ as i written m, m ≤ n + 1 ∧ Sound σ initial (l.take deed) as i written m := by
  cases deed with
  | write record now => exact (h.write hrooted hword record now).right hcalm
  | flush =>
    obtain ⟨written', h'⟩ := h.flush
    exact ⟨as, i, written', n, by omega, h'⟩
  | device room => exact ⟨as, i, written, n, by omega, h.footing.refit room, h.size, h.bytes, h.kept⟩

/-- **Any calls** without a refusal. -/
theorem Sound.run {deeds : List Deed} (h : Sound σ initial l as i written n) (hrooted : σ.base.Rooted)
    (hcount : n + deeds.length < UInt64.size) (hcalm : l.Calm deeds) :
    ∃ as i written m, m ≤ n + deeds.length ∧ Sound σ initial (l.run deeds) as i written m := by
  induction deeds generalizing l as i written n with
  | nil => exact ⟨as, i, written, n, le_refl _, h⟩
  | cons deed deeds ih =>
    rw [List.length_cons] at hcount
    obtain ⟨as', i', written', m, hm, h'⟩ := h.take hrooted (by omega) hcalm.1
    obtain ⟨as'', i'', written'', m', hm', h''⟩ := ih h' (by omega) hcalm.2
    exact ⟨as'', i'', written'', m', by rw [List.length_cons]; omega, h''⟩

/-- A log file that was just opened. -/
theorem Sound.of_open {policy : RollingPolicy} {immediateFlush : Bool} {modified : Instant} {d₀ : Disk}
    (hopen : RollingFile.openAt σ.path policy immediateFlush now modified d = (.ok f, d₀))
    (hbelow : Below σ.base d₀) (hproper : d₀.Proper) (hnumbered : σ.Numbered n d₀)
    (hactive : ∀ w ∈ f.writer, Active σ d₀ w.file initial) :
    ∃ i, Sound σ initial { file := f, disk := d₀ } [] i initial n := by
  obtain ⟨d₁, x, i, -, hopened, hends, rfl⟩ := RollingFile.openAt_ok hopen
  obtain rfl : x = σ.name := Option.some.inj (hends.steps.symm.trans σ.ends.steps)
  have hact := hactive { file := i } rfl
  refine ⟨i, ?_, ?_, by simp [RollingFile.buffered], rfl⟩
  · constructor
    case site => exact ⟨rfl, rfl, rfl⟩
    case opened => exact ⟨hends, rfl, _, rfl⟩
    case notClosed => rfl
    case below => exact hbelow
    case proper => exact hproper
    case numbered => exact hnumbered
    case active => exact hact
    case writer =>
      intro w hw
      rw [← Option.some.inj hw]
    case archives => simp
    case keys => simp
  · have hlength := hact.length_eq
    simp [RollingFile.buffered, hlength]

/-- **A failed write leaves nothing behind, unless the buffer is refused.** A log file is opened, in a directory
with whatever else in it; records and flushes follow, with any clock and on a device that has room or has none, so
that any of them may fail; and no record met a refusal. Then the books are right: the archives made, the active
file and the buffer hold what was there and every record whose writing succeeded, and nothing of those that
failed; the size is that of the active file with the buffer; and archives that were not pruned can be read. The
next record, whether it fails or not, leaves them right exactly if it meets no refusal. If it fails without one,
the size is as it was, or nothing since the old file was set aside. The numbers of archives are 64-bit words, so
there is a limit to the calls. -/
theorem failed_write_atomic {policy : RollingPolicy} {immediateFlush : Bool} {modified : Instant} {d₀ : Disk}
    {deeds : List Deed} (hrooted : σ.base.Rooted)
    (hopen : RollingFile.openAt σ.path policy immediateFlush now modified d = (.ok f, d₀))
    (hbelow : Below σ.base d₀) (hproper : d₀.Proper) (hnumbered : σ.Numbered n d₀)
    (hactive : ∀ w ∈ f.writer, Active σ d₀ w.file initial) (hcount : n + deeds.length + 1 < UInt64.size)
    (hcalm : Calm { file := f, disk := d₀ } deeds) :
    let l := run { file := f, disk := d₀ } deeds
    l.Whole σ initial ∧
      ∀ record now, ((l.take (.write record now)).Whole σ initial ↔ ¬ l.file.Refusal record now l.disk) ∧
        ((l.file.write record now l.disk).1 ≠ .ok () → ¬ l.file.Refusal record now l.disk →
          let l' := l.take (.write record now)
          l'.accepted = l.accepted ∧
            (l'.file.size = l.file.size ∧ l'.made = l.made ∨
              l'.file.size = 0 ∧ ∃ a, l'.made = l.made ++ [a])) := by
  intro l
  obtain ⟨i, h⟩ := Sound.of_open hopen hbelow hproper hnumbered hactive
  obtain ⟨as, i, written, m, hm, h⟩ := h.run hrooted (by omega) hcalm
  refine ⟨h.whole, fun record now => ?_⟩
  have hout := h.write hrooted (by omega) record now
  refine ⟨⟨fun hwhole hrefusal => hout.wrong hrefusal hwhole, fun hcalm => ?_⟩,
    fun hfailed hcalm => hout.size hcalm hfailed⟩
  obtain ⟨as', i', written', m', -, h'⟩ := hout.right hcalm
  exact h'.whole

/-- A record of the day after the file was opened is refused, because an old archive cannot be removed: there is a
directory of that name. Nothing of it stays, and when it is tried again it is taken. -/
theorem failed_write_atomic_stuck :
    let t₀ : Instant := ⟨1792231200, 0, 0⟩
    let t₁ : Instant := ⟨1792317600, 0, 0⟩
    let record : Bytes := [1, 1, 1]
    let d := Disk.working [("host.2026-10-16.0.log", 4)] [.dir 3 []]
    ∃ f d₀, RollingFile.openAt "host.log" ⟨64, 0, .daily⟩ true t₀ t₀ d = (.ok f, d₀) ∧
      let l := run { file := f, disk := d₀ } [.write record t₁]
      let l' := l.take (.write record t₁)
      (f.write record t₁ d₀).1 = .error .isADirectory ∧ l.Whole LogSite.hostLog [] ∧ l.accepted = [] ∧
        l'.Whole LogSite.hostLog [] ∧ l'.accepted = record := by
  intro t₀ t₁ record d
  let d₀ := Disk.working [("host.2026-10-16.0.log", 4), ("host.log", 5)] [.dir 3 [], .file [] none]
  let o := RollingFile.openAt "host.log" ⟨64, 0, .daily⟩ true t₀ t₀ d
  have hall : o.1.toOption.any (fun f =>
      let l := run { file := f, disk := d₀ } [.write record t₁]
      let l' := l.take (.write record t₁)
      decide (o.2 = d₀ ∧ f.writer = some ⟨5, []⟩ ∧ (f.write record t₁ d₀).1 = .error .isADirectory ∧
        f.rolls record t₁ = true ∧ (f.settle d₀).1 = .ok () ∧
        (f.roll (f.policy.rotation.period t₁) d₀).1 = .error .isADirectory ∧ l.accepted = [] ∧
        l.file.closed = false ∧ (l.file.write record t₁ l.disk).1 = .ok () ∧ l'.accepted = record)) = true := by
    decide +kernel
  obtain ⟨f, hf, hall⟩ := (Option.any_eq_true _ _).1 hall
  obtain ⟨hdisk, hwriter, hfirst, hrolls, hsettle, hroll, hnone, hclosed, hsecond, haccepted⟩ :=
    of_decide_eq_true hall
  have hopen : o = (.ok f, d₀) := Prod.ext (Track.ok_of_toOption hf) hdisk
  have hproper : d₀.Proper := by
    refine Disk.proper_working ?_ (by simp)
    simp +decide [Path.IsName]
  have hnumbered : LogSite.hostLog.Numbered 1 d₀ := by
    refine ⟨by decide, fun above es hes => ?_⟩
    cases hes
    decide +kernel
  have hactive : ∀ w ∈ f.writer, Active LogSite.hostLog d₀ w.file [] := by
    rw [hwriter]
    rintro w hw
    obtain rfl := Option.some.inj hw
    exact ⟨⟨5, by decide +kernel, by decide +kernel⟩, none, rfl⟩
  have hcalm : Calm { file := f, disk := d₀ } [.write record t₁] := by
    refine ⟨?_, trivial⟩
    rintro (⟨-, hsettle'⟩ | ⟨hrolls', -⟩ | ⟨-, hroll', -⟩)
    · rw [hsettle] at hsettle'
      cases hsettle'
    · rw [hrolls] at hrolls'
      cases hrolls'
    · rw [hroll'] at hroll
      cases hroll
  obtain ⟨hwhole, hnext⟩ :=
    failed_write_atomic Disk.rooted_empty hopen (Disk.below_working (by simp)) hproper hnumbered
    hactive (by decide) hcalm
  refine ⟨f, d₀, hopen, hfirst, hwhole, hnone, (hnext record t₁).1.2 (fun hrefusal => ?_), haccepted⟩
  obtain ⟨e, he⟩ := RollingFile.Refusal.error hclosed hrefusal
  rw [hsecond] at he
  cases he

/-- **A record that was refused appears later.** It is written to a full device, which the log file leads to by a
link, and handed over at once; the call fails, but the record is in the buffer, and a flush brings it to the file
as soon as there is room. -/
theorem refused_record_appears :
    let t₀ : Instant := ⟨1792231200, 0, 0⟩
    let record : Bytes := [1, 1, 1]
    let d := Disk.working [("host.log", 4)] [.link "/dev/full"]
    ∃ f, RollingFile.openAt "host.log" ⟨64, 7, .daily⟩ true t₀ t₀ d = (.ok f, d) ∧
      (f.write record t₀ d).1 = .error .storageFull ∧
      let l := run { file := f, disk := d } [.write record t₀]
      let l' := l.run [.device (fun _ => none), .flush]
      l.accepted = [] ∧ (∀ σ initial, ¬ l.Whole σ initial) ∧ l'.accepted = [] ∧
        l'.disk.read "host.log" = .ok record := by
  intro t₀ record d
  let o := RollingFile.openAt "host.log" ⟨64, 7, .daily⟩ true t₀ t₀ d
  have hall : o.1.toOption.any (fun f =>
      let l := run { file := f, disk := d } [.write record t₀]
      let l' := l.run [.device (fun _ => none), .flush]
      decide (o.2 = d ∧ (f.write record t₀ d).1 = .error .storageFull ∧ l.accepted = [] ∧ l.file.size = 0 ∧
        l.file.buffered = record ∧ l'.accepted = [] ∧ l'.disk.read "host.log" = .ok record)) = true := by
    decide +kernel
  obtain ⟨f, hf, hall⟩ := (Option.any_eq_true _ _).1 hall
  obtain ⟨hdisk, hfailed, haccepted, hsize, hbuffered, haccepted', hread⟩ := of_decide_eq_true hall
  refine ⟨f, Prod.ext (Track.ok_of_toOption hf) hdisk, hfailed, haccepted, ?_, haccepted', hread⟩
  rintro σ initial ⟨⟨i, written, -, -, hcounted, -⟩, -⟩
  rw [hsize, hbuffered] at hcounted
  simp [record] at hcounted

end Ledger

end ModuleHost
