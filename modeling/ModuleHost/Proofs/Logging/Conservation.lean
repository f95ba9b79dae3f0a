import Mathlib
import ModuleHost.Proofs.Logging.Steady

/-!
# Nothing is lost in a rolling file

Records go to the active file and from there to archives, and the oldest archives are removed. Otherwise
every byte stays, once and in order.

* `Track.Sound`: the archives in the directory are those made and not removed, oldest first, and their keys
  are not ahead of the clock.
* `Track.Sound.write`, `Track.Sound.flush`, `Track.Sound.reopen`: each call keeps that; `Track.Sound.run`.
* `Track.nothing_lost`: **after any calls in the order of periods**, the archives as they are listed and the
  active file hold what was there and what was written, but for the oldest archives, which were removed.
* `Track.newest_lost`: where the local clock is put back, the archive that was just made is taken for the oldest.
-/

namespace ModuleHost

open RollingFile (Call InOrder)

namespace Track

/-- **A log file and its archives in agreement**, when the last record was written at `last` and the clock
is at `clock`. -/
structure Sound (σ : LogSite) (policy : RollingPolicy) (s : Track) (as : List Kept) (content : Bytes)
    (last : Option Instant) (clock : Instant) : Prop where
  stand : Stand σ s.file s.disk as content
  samePolicy : s.file.policy = policy
  made : s.made = s.removed ++ as.map (fun a => a.item σ)
  index : ∀ a ∈ as, a.key.index.toNat < s.made.length
  archives : ∀ a ∈ as, ∃ t ∈ last, a.key.period ≤ policy.rotation.period t
  period : ∃ t, s.file.period = policy.rotation.period t
  notAhead : s.file.period ≤ policy.rotation.period clock
  notBehind : ∀ t ∈ last, policy.rotation.period t ≤ s.file.period

/-- Everything that ever was in the log file, in order, when the active file holds `content`. -/
def total (s : Track) (content : Bytes) : Bytes :=
  (s.made.map (·.2)).flatten ++ content

namespace Sound

variable {σ : LogSite} {policy : RollingPolicy} {s s' : Track} {as : List Kept} {content record : Bytes}
  {last : Option Instant} {clock now modified : Instant} {immediateFlush : Bool}

/-- The archives and the active file are in the order of time. -/
theorem steady (h : Sound σ policy s as content last clock) :
    Steady σ policy s.file s.disk as content s.made.length clock := by
  refine ⟨h.stand.holding, h.samePolicy, h.index, ?_, h.period, h.notAhead⟩
  intro a ha
  obtain ⟨t, ht, hle⟩ := h.archives a ha
  exact hle.trans (h.notBehind t ht)

/-- After a record, the active file is of the record's period. -/
theorem of_steady (h : Steady σ policy s.file s.disk as content s.made.length now)
    (hsize : s.file.size = content.length) (hmade : s.made = s.removed ++ as.map (fun a => a.item σ))
    (hperiod : s.file.period = policy.rotation.period now) :
    Sound σ policy s as content (some now) now := by
  refine ⟨h.holding.stand hsize, h.samePolicy, hmade, h.index, ?_, h.period, h.notAhead, ?_⟩
  · intro a ha
    exact ⟨now, rfl, (h.archives a ha).trans h.notAhead⟩
  · intro t ht
    rw [← Option.some.inj ht]
    exact le_of_eq hperiod.symm

/-- A record of the same period goes to the active file. -/
theorem stay {f : RollingFile} {d : Disk} (h : Sound σ policy s as content last clock)
    (hclock : policy.rotation.period clock ≤ policy.rotation.period now)
    (hsame : policy.rotation.period now = s.file.period)
    (hr : s.file.appendRecord record s.disk = (.ok (), f, d)) :
    Sound σ policy { s with file := f, disk := d } as (content ++ record) (some now) now := by
  obtain ⟨hsteady, hsize, hperiod⟩ := (h.steady.later hclock).stay hr
  refine of_steady hsteady ?_ h.made (hperiod.trans hsame.symm)
  show f.size = _
  rw [hsize, h.stand.size]
  exact List.length_append.symm

/-- **A record that rolls over** finds the old content in the archives, of which the first are removed. -/
theorem rollOver {f₁ f : RollingFile} {d₁ d : Disk} (h : Sound σ policy s as content last clock)
    (hclock : policy.rotation.period clock ≤ policy.rotation.period now) (hm : s.made.length < UInt64.size)
    (hroll : s.file.roll (policy.rotation.period now) s.disk = (.ok (), f₁, d₁))
    (hr : f₁.appendRecord record d₁ = (.ok (), f, d)) :
    ∃ new : List Kept, ∃ gone, gone = (as ++ new).length - policy.maxHistory ∧
      s.file.archiveMade s.disk = new.map (fun a => a.item σ) ∧ (new.map (·.content)).flatten = content ∧
      Sound σ policy
        { file := f
          disk := d
          made := s.made ++ s.file.archiveMade s.disk
          removed := s.removed ++ s.file.archivesRemoved (policy.rotation.period now) s.disk }
        ((as ++ new).drop gone) record (some now) now := by
  obtain ⟨new, rest, gone, hgone, hsteady, hmoved, hmade, hremoved, hsize, hperiod⟩ :=
    (h.steady.later hclock).rollOver hm hroll hr
  -- a file that knows its size stays in use only if it is empty
  obtain ⟨rfl, hcontent⟩ : rest = [] ∧ (new.map (·.content)).flatten = content := by
    rcases hmoved with ⟨hzero, rfl, rfl⟩ | ⟨rfl, hnew⟩
    · have hnil : rest = [] := List.length_eq_zero_iff.1 (h.stand.size.symm.trans hzero)
      exact ⟨hnil, hnil.symm⟩
    · rw [hnew]
      exact ⟨rfl, by simp⟩
  refine ⟨new, gone, hgone, hmade, hcontent, of_steady ?_ hsize ?_ hperiod⟩
  · show Steady _ _ _ _ _ _ (s.made ++ _).length _
    rw [hmade, List.length_append, List.length_map]
    exact hsteady
  · -- what was removed are the first of the archives
    show s.made ++ _ = (s.removed ++ _) ++ _
    rw [h.made, hmade, hremoved, List.append_assoc, List.append_assoc, ← List.map_append,
      ← List.map_append, List.take_append_drop]

/-- **A record** comes last. If the file was rolled over for it, no more archives are left than the policy
says. -/
theorem write (h : Sound σ policy s as content last clock)
    (hclock : policy.rotation.period clock ≤ policy.rotation.period now) (hm : s.made.length < UInt64.size)
    (ht : s.take (.write record now) = .ok s') :
    ∃ as' content', Sound σ policy s' as' content' (some now) now ∧
      s'.total content' = s.total content ++ record ∧
      (s.file.rolls record now = true → as'.length ≤ policy.maxHistory) := by
  have hcases := take_write_ok h.stand.notClosed ht
  rw [h.samePolicy] at hcases
  rcases hcases with ⟨hrolls, hsame, f, d, hr, rfl⟩ | ⟨-, f₁, d₁, f, d, hroll, hr, rfl⟩
  · refine ⟨as, content ++ record, h.stay hclock hsame hr, ?_, by simp [hrolls]⟩
    unfold total
    rw [List.append_assoc]
  · obtain ⟨new, gone, hgone, hmade, hcontent, h'⟩ := h.rollOver hclock hm hroll hr
    refine ⟨_, record, h', ?_, fun _ => ?_⟩
    · -- the old content moved from the end to the last archive
      show ((s.made ++ _).map (·.2)).flatten ++ record = _
      unfold total
      rw [hmade, List.map_append, List.flatten_append, List.map_map, ← hcontent]
      rfl
    · rw [List.length_drop, hgone]
      omega

/-- **A flush** changes nothing but where the bytes are. -/
theorem flush (h : Sound σ policy s as content last clock) (ht : s.take .flush = .ok s') :
    Sound σ policy s' as content last clock ∧ s'.made = s.made := by
  unfold take at ht
  simp only at ht
  split at ht
  · cases ht
  rename_i f d hflush
  cases ht
  obtain ⟨hstand, -, hpolicy, hperiod⟩ := h.stand.flush hflush
  refine ⟨⟨hstand, hpolicy.trans h.samePolicy, h.made, h.index, h.archives, ?_, ?_, ?_⟩, rfl⟩
  · obtain ⟨t, ht⟩ := h.period
    exact ⟨t, hperiod.trans ht⟩
  · exact (le_of_eq hperiod).trans h.notAhead
  · intro t ht
    exact (h.notBehind t ht).trans (le_of_eq hperiod.symm)

/-- **Opening the file anew** takes it to the period of its last change, which the archives are not
ahead of. -/
theorem reopen (h : Sound σ policy s as content last clock)
    (hlast : ∀ t ∈ last, policy.rotation.period t ≤ policy.rotation.period modified)
    (hmodified : policy.rotation.period modified ≤ policy.rotation.period now)
    (ht : s.take (.reopen immediateFlush now modified) = .ok s') :
    Sound σ policy s' as content last now ∧ s'.made = s.made := by
  unfold take at ht
  simp only at ht
  split at ht
  · cases ht
  rename_i f₁ d₁ hclose
  split at ht
  · cases ht
  rename_i f d hopen
  cases ht
  obtain ⟨hstand, hpolicy, hperiod⟩ := h.stand.reopen hclose hopen
  rw [h.samePolicy] at hperiod
  refine ⟨⟨hstand, hpolicy.trans h.samePolicy, h.made, h.index, h.archives, ⟨_, hperiod⟩, ?_, ?_⟩, rfl⟩
  · rw [hperiod]
    split
    · exact hmodified
    · exact le_refl _
  · -- the last record came before the change that the file shows
    intro t ht
    rw [hperiod]
    split
    · exact hlast t ht
    · exact (hlast t ht).trans hmodified

/-- **One call**, in the order of periods. -/
theorem take {c : Call} {cs : List Call} (h : Sound σ policy s as content last clock)
    (hc : InOrder policy.rotation last clock (c :: cs)) (hm : s.made.length < UInt64.size)
    (ht : s.take c = .ok s') :
    ∃ as' content' last' clock', Sound σ policy s' as' content' last' clock' ∧
      InOrder policy.rotation last' clock' cs ∧
      s'.total content' = s.total content ++ c.record?.getD [] ∧
      ∀ record now, c = .write record now → s.file.rolls record now = true →
        as'.length ≤ policy.maxHistory := by
  cases c with
  | write record now =>
    obtain ⟨hclock, hcs⟩ := hc
    obtain ⟨as', content', h', htotal, hroll⟩ := h.write hclock hm ht
    refine ⟨as', content', _, _, h', hcs, htotal, ?_⟩
    intro record' now' heq
    cases heq
    exact hroll
  | flush =>
    obtain ⟨h', hmade⟩ := h.flush ht
    refine ⟨as, content, _, _, h', hc, ?_, by simp⟩
    unfold total
    rw [hmade]
    exact (List.append_nil _).symm
  | reopen immediateFlush now modified =>
    obtain ⟨-, ⟨hlast, hmodified⟩, hcs⟩ := hc
    obtain ⟨h', hmade⟩ := h.reopen hlast hmodified ht
    refine ⟨as, content, _, _, h', hcs, ?_, by simp⟩
    unfold total
    rw [hmade]
    exact (List.append_nil _).symm

/-- **Any calls**, in the order of periods and with others to follow. -/
theorem run {cs rest : List Call} (h : Sound σ policy s as content last clock)
    (hc : InOrder policy.rotation last clock (cs ++ rest)) (hm : s'.made.length < UInt64.size)
    (hr : s.run cs = .ok s') :
    ∃ as' content' last' clock', Sound σ policy s' as' content' last' clock' ∧
      InOrder policy.rotation last' clock' rest ∧
      s'.total content' = s.total content ++ (cs.filterMap Call.record?).flatten := by
  induction cs generalizing s as content last clock with
  | nil =>
    cases hr
    exact ⟨as, content, last, clock, h, hc, by simp⟩
  | cons c cs ih =>
    obtain ⟨s₁, ht, hr⟩ := run_cons_ok_iff.1 hr
    -- no more archives were made before than in the end
    have hm₁ : s.made.length < UInt64.size :=
      ((made_le_of_take ht).trans (made_le_of_run hr)).trans_lt hm
    obtain ⟨as₁, content₁, last₁, clock₁, h₁, hc₁, htotal₁, -⟩ := h.take hc hm₁ ht
    obtain ⟨as', content', last', clock', h', hc', htotal'⟩ := ih h₁ hc₁ hr
    refine ⟨as', content', last', clock', h', hc', ?_⟩
    rw [htotal', htotal₁, List.append_assoc]
    congr 1
    rw [List.filterMap_cons]
    cases c.record? <;> rfl

end Sound

/-- **Nothing is lost, doubled or put out of order** as long as the period that the clock shows does not go back.
A log file is opened in a directory that has no archives of it, and holds `initial`, which it held before if it
was there. Then come any calls in the order of periods, none of which fails, and a last flush. The archives, as
they are listed, and the active file hold `initial` and all the records, but for the archives that were removed;
these were the first of those made, and the ones that are left are listed in the order they were made. After every
record that rolled over, no more archives are left than the policy says. The numbers of archives are 64-bit words,
so there is a limit to how many can be made, but none to the calls. -/
theorem nothing_lost {path : String} {policy : RollingPolicy} {immediateFlush : Bool}
    {now modified : Instant} {d d₀ d' : Disk} {f f' : RollingFile} {initial : Bytes} {calls : List Call}
    {s : Track}
    (hopen : RollingFile.openAt path policy immediateFlush now modified d = (.ok f, d₀))
    (hnone : f.archives d₀ = .ok []) (hinitial : d₀.read path = .ok initial)
    (hmodified : initial ≠ [] → policy.rotation.period modified ≤ policy.rotation.period now)
    (horder : InOrder policy.rotation none now calls)
    (hrun : run { file := f, disk := d₀ } calls = .ok s) (hcount : s.made.length < UInt64.size)
    (hflush : s.file.flush s.disk = (.ok (), f', d')) :
    (∀ old, d.read path = .ok old → old = initial) ∧
    (∃ paths contents active, f'.archives d' = .ok paths ∧ paths.map d'.read = contents.map .ok ∧
      d'.read path = .ok active ∧ s.made = s.removed ++ paths.zip contents ∧
      (s.removed.map (·.2)).flatten ++ (contents.flatten ++ active) =
        initial ++ (calls.filterMap Call.record?).flatten) ∧
    ∀ before record now rest s₁ s₂, calls = before ++ .write record now :: rest →
      run { file := f, disk := d₀ } before = .ok s₁ → s₁.file.rolls record now = true →
      s₁.take (.write record now) = .ok s₂ →
      ∃ paths, s₂.file.archives s₂.disk = .ok paths ∧ paths.length ≤ policy.maxHistory := by
  obtain ⟨σ, rfl, hstand, hpolicy, hperiod, hold⟩ := Stand.of_open hopen hnone hinitial
  -- no record was written and no archive made, so only the clock is to be compared with
  have h : Sound σ policy { file := f, disk := d₀ } [] initial none now := by
    refine ⟨hstand, hpolicy, rfl, by simp, by simp, ⟨_, hperiod⟩, ?_, by simp⟩
    rw [hperiod]
    split
    · rename_i hlength
      exact hmodified (List.length_pos_iff.1 hlength)
    · exact le_refl _
  refine ⟨hold, ?_, ?_⟩
  · have hcalls : InOrder policy.rotation none now (calls ++ []) := by
      rw [List.append_nil]
      exact horder
    obtain ⟨as, content, last, clock, h', -, htotal⟩ := h.run hcalls hcount hrun
    obtain ⟨hstand', hactive, -, -⟩ := h'.stand.flush hflush
    have harchives := hstand'.shelf.archives hstand'.site
    refine ⟨as.map (fun a => σ.pathOf a.key), as.map (·.content), content, ?_⟩
    refine ⟨harchives, ?_, hactive, ?_, ?_⟩
    · rw [List.map_map, List.map_map]
      exact List.map_congr_left (fun a ha => hstand'.shelf.read ha)
    · rw [h'.made, List.zip_map']
      rfl
    · unfold total at htotal
      rw [h'.made] at htotal
      simpa [Function.comp_def, Kept.item] using htotal
  · -- the calls before the record, then the record
    intro before record now' rest s₁ s₂ hcalls hbefore hrolls htake
    subst hcalls
    obtain ⟨s₃, hbefore', hrest⟩ := run_append_ok_iff.1 hrun
    obtain rfl : s₁ = s₃ := Except.ok.inj (hbefore.symm.trans hbefore')
    have hm := (made_le_of_run hrest).trans_lt hcount
    obtain ⟨as, content, last, clock, h', hc, -⟩ := h.run horder hm hbefore
    obtain ⟨as', content', last', clock', h'', -, -, hfew⟩ := h'.take hc hm htake
    refine ⟨_, h''.stand.shelf.archives h''.stand.site, ?_⟩
    rw [List.length_map]
    exact hfew record now' rfl hrolls

/-- Two records, of which the second rolls over, and the file opened anew on the next day. -/
theorem nothing_lost_two_days :
    let t₀ : Instant := ⟨1792231200, 0, 0⟩
    let t₁ : Instant := ⟨1792317600, 0, 0⟩
    let calls : List Call := [.write [1, 1, 1] t₀, .write [2, 2, 2] t₀, .flush, .reopen true t₁ t₀]
    ∃ f d₀ s f' d',
      RollingFile.openAt "logs/host.log" ⟨4, 1, .daily⟩ false t₀ t₀ Disk.empty = (.ok f, d₀) ∧
      f.archives d₀ = .ok [] ∧ d₀.read "logs/host.log" = .ok [] ∧ InOrder .daily none t₀ calls ∧
      run { file := f, disk := d₀ } calls = .ok s ∧ s.made.length = 1 ∧
      s.file.flush s.disk = (.ok (), f', d') ∧
      ∃ paths contents active, f'.archives d' = .ok paths ∧ paths.map d'.read = contents.map .ok ∧
        d'.read "logs/host.log" = .ok active ∧ s.made = s.removed ++ paths.zip contents ∧
        (s.removed.map (·.2)).flatten ++ (contents.flatten ++ active) =
          [] ++ (calls.filterMap Call.record?).flatten := by
  intro t₀ t₁ calls
  let o := RollingFile.openAt "logs/host.log" ⟨4, 1, .daily⟩ false t₀ t₀ Disk.empty
  have hall : o.1.toOption.any (fun f =>
      f.archives o.2 = .ok [] ∧ o.2.read "logs/host.log" = .ok [] ∧
        (run { file := f, disk := o.2 } calls).toOption.any (fun s =>
          s.made.length = 1 ∧ (s.file.flush s.disk).1 = .ok ())) = true := by
    decide +kernel
  obtain ⟨f, hf, hall⟩ := (Option.any_eq_true _ _).1 hall
  obtain ⟨hnone, hread, hall⟩ := of_decide_eq_true hall
  obtain ⟨s, hs, hall⟩ := (Option.any_eq_true _ _).1 hall
  obtain ⟨hmade, hok⟩ := of_decide_eq_true hall
  have hopen : o = (.ok f, o.2) := Prod.ext (ok_of_toOption hf) rfl
  have hrun := ok_of_toOption hs
  have hflush : s.file.flush s.disk = (.ok (), (s.file.flush s.disk).2) := Prod.ext hok rfl
  -- the local clock is not put back
  have hforward : RollingFile.Forward none t₀ calls :=
    ⟨⟨by decide, by decide⟩, ⟨by decide, by decide⟩, ⟨by decide, by decide⟩,
      ⟨fun t ht => Option.some.inj ht ▸ (by decide : t₀ ≤ t₀), by decide, by decide⟩, trivial⟩
  have horder : InOrder .daily none t₀ calls :=
    RollingFile.inOrder_of_forward .daily (by decide) nofun hforward
  have hcount : s.made.length < UInt64.size := by
    rw [hmade]
    decide
  have hall := nothing_lost hopen hnone hread (fun h => (h rfl).elim) horder hrun hcount hflush
  exact ⟨f, _, s, _, _, hopen, hnone, hread, horder, hrun, hmade, hflush, hall.2.1⟩

/-- **Where the local clock is put back, the archive that was just made is lost.** A new file is begun every
minute, and one archive is kept. Three records are written, a minute after one another, and between the first and
the second one the clock goes from two hours ahead of UTC to one hour. So the minute of the second record is shown
as an earlier one than that of the first, and when the second archive is made it is removed as the oldest, while
the first one stays. -/
theorem newest_lost :
    let t₀ : Instant := ⟨1792889970, 0, 7200⟩
    let t₁ : Instant := ⟨1792890030, 0, 3600⟩
    let t₂ : Instant := ⟨1792890090, 0, 3600⟩
    let first : String × Bytes := ("./host.2026-10-25-02-59.0.log", [1])
    let second : String × Bytes := ("./host.2026-10-25-02-00.0.log", [2])
    let calls : List Call := [.write [1] t₀, .write [2] t₁, .write [3] t₂]
    t₀.seconds < t₁.seconds ∧ t₁.seconds < t₂.seconds ∧ ¬InOrder .minutely none t₀ calls ∧
    ∃ f d₀ s, RollingFile.openAt "host.log" ⟨64, 1, .minutely⟩ true t₀ t₀ Disk.empty = (.ok f, d₀) ∧
      f.archives d₀ = .ok [] ∧ d₀.read "host.log" = .ok [] ∧ run { file := f, disk := d₀ } calls = .ok s ∧
      s.made = [first, second] ∧ s.removed = [second] ∧
      s.disk.read first.1 = .ok [1] ∧ s.disk.read "host.log" = .ok [3] ∧
      ¬ [1] ++ [3] <:+ (calls.filterMap Call.record?).flatten := by
  intro t₀ t₁ t₂ first second calls
  let o := RollingFile.openAt "host.log" ⟨64, 1, .minutely⟩ true t₀ t₀ Disk.empty
  let names := ["host.2026-10-25-02-59.0.log", "host.2026-10-25-02-00.0.log", "host.log"]
  let keyed : List (ArchiveKey × String) :=
    [(⟨"2026-10-25-02-00", 0⟩, "host.2026-10-25-02-00.0.log"),
      (⟨"2026-10-25-02-59", 0⟩, "host.2026-10-25-02-59.0.log")]
  have hall : o.1.toOption.any (fun f =>
      decide (f.archives o.2 = .ok [] ∧ o.2.read "host.log" = .ok []) &&
        (run { file := f, disk := o.2 } [.write [1] t₀, .write [2] t₁]).toOption.any (fun s =>
          let n := s.file.renew (s.file.policy.rotation.period t₂) s.disk
          let r := RollingFile.removeAll [second.1] n.2.2
          let a := n.2.1.appendRecord [3] r.2
          decide (s.file.closed = false ∧ s.file.rolls [3] t₂ = true ∧ s.made = [first] ∧ s.removed = [] ∧
            s.file.archiveMade s.disk = [second] ∧ n.1 = .ok () ∧ n.2.1.policy.maxHistory = 1 ∧ n.2.1.dir = "." ∧
            n.2.2.list n.2.1.dir = .ok names ∧ keyed.Perm (n.2.1.name.keyed names) ∧
              n.2.2.read second.1 = .ok [2] ∧
            r.1 = .ok () ∧ a.1 = .ok () ∧ a.2.2.read first.1 = .ok [1] ∧
              a.2.2.read "host.log" = .ok [3]))) = true := by
    decide +kernel
  obtain ⟨f, hf, hall⟩ := (Option.any_eq_true _ _).1 hall
  obtain ⟨hfirst, hall⟩ := Bool.and_eq_true_iff.1 hall
  obtain ⟨hnone, hread⟩ := of_decide_eq_true hfirst
  obtain ⟨s, hs, hall⟩ := (Option.any_eq_true _ _).1 hall
  obtain ⟨hopened, hrolls, hmade, hremoved, harchive, hnew, hkept, hdir, hlist, hkeyed, hsecond, hgone,
    happend, hthere, hactive⟩ := of_decide_eq_true hall
  -- the new archive comes first in the order of the names
  let n := s.file.renew (s.file.policy.rotation.period t₂) s.disk
  have holder : keyed.Pairwise (fun a b => a.1.Older b.1) := by
    refine List.pairwise_cons.2 ⟨List.forall_mem_singleton.2 (Or.inl ?_), List.pairwise_singleton _ _⟩
    decide
  have hexcess : n.2.1.excess n.2.2 = .ok [second.1] := by
    unfold RollingFile.excess RollingFile.archives
    rw [RollingFile.keyedArchives_of_perm hlist hkeyed holder, hkept, hdir]
    rfl
  have htake := take_of_excess hopened hrolls (Prod.ext hnew rfl) hexcess (Prod.ext hgone rfl)
    (Prod.ext happend rfl)
  have hrun := run_append_ok_iff.2 ⟨s, ok_of_toOption hs, run_cons_ok_iff.2 ⟨_, htake, (rfl : run _ [] = .ok _)⟩⟩
  refine ⟨by decide, by decide, by decide +kernel, f, o.2, _, Prod.ext (ok_of_toOption hf) rfl, hnone, hread,
    hrun, ?_, ?_, hthere, hactive, by decide⟩
  · show s.made ++ _ = _
    rw [hmade, harchive]
    rfl
  · show s.removed ++ [second.1].filterMap
        (fun path => (n.2.2.read path).toOption.map (fun content => (path, content))) = _
    rw [hremoved, List.filterMap_cons, hsecond]
    rfl

end Track

end ModuleHost
