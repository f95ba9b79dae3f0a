import Mathlib
import ModuleHost.Proofs.Http.Crowd

/-!
# Draining a gate

What holds at any time in a crowd at a gate, whoever takes which step.

* `Crowd.Counted`: **the counter stands for the visits that were counted and not uncounted yet**, so it is never
  lowered at zero.
* `Crowd.Emptied`: after a wait that began late found nobody inside, nobody is inside.
* `Crowd.Called`: **a late waiter sleeps only while somebody is counted or is about to wake it**.
* `Crowd.drain_sound`: the three together, over every run; and a waiter that has nobody left to wait for comes to
  its end on its own.
-/

namespace ModuleHost.Http.Crowd

/-- **The counter** stands for the visits that are counted. -/
def Counted (t : Crowd) : Prop :=
  t.gate.inFlight = t.visits.countP VisitStage.isCounted

/-- A wait that began late began at a closed gate. -/
def Shut (t : Crowd) : Prop :=
  ∀ w ∈ t.waits, w.late = true → t.gate.closing = true

/-- Some visit brought the counter to zero, and is about to wake the waiters. -/
def CallDue (t : Crowd) : Prop :=
  ∃ (i : Nat) (s : VisitStage), t.visits[i]? = some s ∧ s.owesCall = true

/-- **Nobody sleeps for nothing**: there is somebody inside, or somebody is about to wake the waiters. -/
def Called (t : Crowd) : Prop :=
  ∀ w ∈ t.waits, w.late = true → w.stage = .parked false → t.gate.inFlight ≠ 0 ∨ t.CallDue

/-- **Nobody is inside** once a late wait found it so. -/
def Emptied (t : Crowd) : Prop :=
  ∀ w ∈ t.waits, w.late = true → w.stage = .returned true → ∀ s ∈ t.visits, s.isAdmitted = false

/-- All of this together. -/
structure Orderly (t : Crowd) : Prop where
  counted : t.Counted
  shut : t.Shut
  called : t.Called
  emptied : t.Emptied

variable {t t' t₁ : Crowd} {i j : Nat} {s next : VisitStage} {w : Wait} {xs ys : List CrowdMove} {x : CrowdMove}

/-! ### The counter -/

/-- A visit that comes to a stage changes a count by itself at most. -/
theorem countP_putVisit (p : VisitStage → Bool) (hs : t.visits[i]? = some s) (next : VisitStage) :
    (t.putVisit i next).visits.countP p + (p s).toNat = t.visits.countP p + (p next).toNat :=
  countP_set_add p hs next

/-- Somebody who is counted keeps the counter from zero. -/
theorem Counted.ne_zero (h : t.Counted) (hs : s ∈ t.visits) (hcounted : s.isCounted = true) :
    t.gate.inFlight ≠ 0 := by
  have hpos : 0 < t.visits.countP VisitStage.isCounted := List.countP_pos_iff.2 ⟨s, hs, hcounted⟩
  rw [h]
  exact Nat.ne_of_gt hpos

theorem Counted.goesOn (h : t.Counted) (hs : t.visits[i]? = some s) (hstep : t.GoesOn i s t') : t'.Counted := by
  have hcount := fun next => countP_putVisit VisitStage.isCounted hs next
  unfold Counted at h
  cases hstep with
  | counts =>
    have := hcount .counted
    simp only [VisitStage.isCounted, Bool.toNat_true, Bool.toNat_false] at this
    show t.gate.inFlight + 1 = _
    rw [h]
    exact this.symm
  | turnsAway => exact h.trans (Nat.add_right_cancel (hcount (.leaving false))).symm
  | comesIn => exact h.trans (Nat.add_right_cancel (hcount .inside)).symm
  | departs => exact h.trans (Nat.add_right_cancel (hcount (.leaving true))).symm
  | uncounts admitted =>
    have := hcount (.uncounted t.gate.inFlight)
    simp only [VisitStage.isCounted, Bool.toNat_true, Bool.toNat_false] at this
    show t.gate.inFlight - 1 = _
    have hcounted : (t.putVisit i _).visits.countP _ = t.gate.inFlight - 1 :=
      Nat.eq_sub_of_add_eq (this.trans h.symm)
    exact hcounted.symm
  | calls => exact h.trans (Nat.add_right_cancel (hcount .calling)).symm
  | passes before => exact h.trans (Nat.add_right_cancel (hcount .gone)).symm
  | wakes => exact h.trans (Nat.add_right_cancel (hcount .gone)).symm

/-! ### Who closed the gate -/

/-- A wait that comes to a stage began when it began. -/
theorem Shut.putWait (h : t.Shut) (hw : t.waits[i]? = some w) (stage : WaitStage) :
    (t.putWait i (w.withStage stage)).Shut := by
  intro w' hw' hlate
  rcases List.mem_or_eq_of_mem_set hw' with hmem | rfl
  · exact h w' hmem hlate
  · exact h w (List.mem_of_getElem? hw) hlate

theorem Shut.goesOn (h : t.Shut) (hstep : t.GoesOn i s t') : t'.Shut := by
  cases hstep with
  | wakes =>
    intro w' hw' hlate
    obtain ⟨w, hw, rfl⟩ := List.mem_map.1 hw'
    exact h w hw (w.wake_late ▸ hlate)
  | _ => exact h

/-! ### Who wakes the waiters -/

/-- A call that is due stays due while another visit goes on. -/
theorem CallDue.putVisit (h : t.CallDue) (hs : t.visits[i]? = some s) (howes : s.owesCall = false)
    (next : VisitStage) : (t.putVisit i next).CallDue := by
  obtain ⟨j, s', hs', howes'⟩ := h
  have hne : i ≠ j := by
    rintro rfl
    rw [hs] at hs'
    cases hs'
    rw [howes] at howes'
    cases howes'
  refine ⟨j, s', ?_, howes'⟩
  show (t.visits.set i next)[j]? = some s'
  rw [List.getElem?_set_ne hne]
  exact hs'

theorem callDue_putVisit (hs : t.visits[i]? = some s) (howes : next.owesCall = true) :
    (t.putVisit i next).CallDue :=
  ⟨i, next, getElem?_putVisit hs next, howes⟩

/-- Only who brought the counter to zero owes a call. -/
theorem owesCall_uncounted {before : Nat} (hbefore : before ≠ 1) :
    (VisitStage.uncounted before).owesCall = false := by
  match before with
  | 0 => rfl
  | 1 => exact absurd rfl hbefore
  | n + 2 => rfl

/-- A visit that owes no call goes on, and the counter stays. -/
theorem Called.putVisit (h : t.Called) (hs : t.visits[i]? = some s) (howes : s.owesCall = false)
    (next : VisitStage) : (t.putVisit i next).Called := by
  intro w hw hlate hparked
  rcases h w hw hlate hparked with hinside | hdue
  · exact Or.inl hinside
  · exact Or.inr (hdue.putVisit hs howes next)

/-- **A visit's step leaves nobody asleep for nothing.** Who lowers the counter to zero owes the call, and does
not forget it, because the gate was closed before any late wait began. -/
theorem Called.goesOn (h : t.Called) (hcounted : t.Counted) (hshut : t.Shut) (hs : t.visits[i]? = some s)
    (hstep : t.GoesOn i s t') : t'.Called := by
  cases hstep with
  | counts =>
    intro w _ _ _
    exact Or.inl (Nat.succ_ne_zero _)
  | turnsAway => exact h.putVisit hs rfl _
  | comesIn => exact h.putVisit hs rfl _
  | departs => exact h.putVisit hs rfl _
  | uncounts admitted =>
    intro w _ _ _
    have hne : t.gate.inFlight ≠ 0 := hcounted.ne_zero (List.mem_of_getElem? hs) rfl
    by_cases hlast : t.gate.inFlight = 1
    · refine Or.inr (callDue_putVisit (t := { t with gate := t.gate.uncount.2 }) hs ?_)
      rw [hlast]
      rfl
    · left
      show t.gate.inFlight - 1 ≠ 0
      omega
  | calls =>
    intro w _ _ _
    exact Or.inr (callDue_putVisit hs rfl)
  | passes before hquiet =>
    intro w hw hlate hparked
    have hbefore : before ≠ 1 := fun hone => by
      have hopen := hquiet hone
      rw [hshut w hw hlate] at hopen
      cases hopen
    exact h.putVisit hs (owesCall_uncounted hbefore) _ w hw hlate hparked
  | wakes =>
    intro w' hw' _ hparked
    obtain ⟨w, -, rfl⟩ := List.mem_map.1 hw'
    exact absurd hparked w.wake_stage_ne

/-- A wait comes to a stage at which it does not sleep, or while somebody is inside. -/
theorem Called.putWait (h : t.Called) {stage : WaitStage} (hstage : stage = .parked false → t.gate.inFlight ≠ 0) :
    (t.putWait i (w.withStage stage)).Called := by
  intro w' hw' hlate hparked
  rcases List.mem_or_eq_of_mem_set hw' with hmem | rfl
  · exact h w' hmem hlate hparked
  · exact Or.inl (hstage hparked)

/-! ### Who is inside -/

/-- **A visit's step lets nobody in** once the gate was found empty. -/
theorem Emptied.goesOn (h : t.Emptied) (hshut : t.Shut) (hs : t.visits[i]? = some s) (hstep : t.GoesOn i s t') :
    t'.Emptied := by
  have hstay (next : VisitStage) (hnext : t.gate.closing = true → s.isAdmitted = false → next.isAdmitted = false) :
      (t.putVisit i next).Emptied := by
    intro w hw hlate hdrained s' hs'
    rcases List.mem_or_eq_of_mem_set hs' with hmem | rfl
    · exact h w hw hlate hdrained s' hmem
    · exact hnext (hshut w hw hlate) (h w hw hlate hdrained s (List.mem_of_getElem? hs))
  cases hstep with
  | counts => exact hstay .counted fun _ _ => rfl
  | turnsAway => exact hstay _ fun _ _ => rfl
  | comesIn hopen =>
    refine hstay _ fun hclosing _ => ?_
    rw [hopen] at hclosing
    cases hclosing
  | departs => exact hstay _ fun _ hinside => by cases hinside
  | uncounts => exact hstay (.uncounted _) fun _ _ => rfl
  | calls => exact hstay _ fun _ _ => rfl
  | passes => exact hstay _ fun _ _ => rfl
  | wakes =>
    intro w' hw' hlate hdrained s' hs'
    obtain ⟨w, hw, rfl⟩ := List.mem_map.1 hw'
    exact hstay .gone (fun _ _ => rfl) w hw (w.wake_late ▸ hlate) (Wait.wake_stage_returned.1 hdrained) s' hs'

/-- A wait comes to a stage that is no end, or nobody is inside. -/
theorem Emptied.putWait (h : t.Emptied) {stage : WaitStage}
    (hstage : w.late = true → stage = .returned true → ∀ s ∈ t.visits, s.isAdmitted = false) :
    (t.putWait i (w.withStage stage)).Emptied := by
  intro w' hw' hlate hdrained
  rcases List.mem_or_eq_of_mem_set hw' with hmem | rfl
  · exact h w' hmem hlate hdrained
  · exact hstage hlate hdrained

/-- At zero nobody is inside. -/
theorem Counted.not_admitted (h : t.Counted) (hempty : t.gate.inFlight = 0) (hs : s ∈ t.visits) :
    s.isAdmitted = false := by
  by_contra hadmitted
  refine h.ne_zero hs ?_ hempty
  cases s with
  | inside => rfl
  | leaving admitted => rfl
  | _ => exact absurd rfl hadmitted

/-! ### Any step -/

theorem Orderly.goesOn (h : t.Orderly) (hs : t.visits[i]? = some s) (hstep : t.GoesOn i s t') : t'.Orderly where
  counted := h.counted.goesOn hs hstep
  shut := h.shut.goesOn hstep
  called := h.called.goesOn h.counted h.shut hs hstep
  emptied := h.emptied.goesOn h.shut hs hstep

/-- A wait comes to a stage. -/
theorem Orderly.putWait (h : t.Orderly) (hw : t.waits[i]? = some w) {stage : WaitStage}
    (hparked : stage = .parked false → t.gate.inFlight ≠ 0)
    (hdrained : stage = .returned true → w.stage = .returned true ∨ t.gate.inFlight = 0) :
    (t.putWait i (w.withStage stage)).Orderly where
  counted := h.counted
  shut := h.shut.putWait hw stage
  called := h.called.putWait hparked
  emptied := h.emptied.putWait fun hlate hstage s hs => by
    rcases hdrained hstage with hbefore | hempty
    · exact h.emptied w (List.mem_of_getElem? hw) hlate hbefore s hs
    · exact h.counted.not_admitted hempty hs

theorem Orderly.watches (h : t.Orderly) (hw : t.waits[i]? = some w) (hstep : t.Watches i w t') : t'.Orderly := by
  cases hstep with
  | enrolls => exact h.putWait hw nofun nofun
  | finds _ _ hempty => exact h.putWait hw nofun fun _ => Or.inr hempty
  | parks _ _ hinside => exact h.putWait hw (fun _ => hinside) nofun
  | rises => exact h.putWait hw nofun nofun

/-- **Every step keeps the crowd in order.** -/
theorem Orderly.step (h : t.Orderly) (hstep : t.step x = some t') : t'.Orderly := by
  cases x with
  | arrive =>
    cases hstep
    refine ⟨?_, h.shut, ?_, ?_⟩
    · show t.gate.inFlight = (t.visits ++ [VisitStage.arriving]).countP _
      rw [List.countP_append]
      exact h.counted
    · intro w hw hlate hparked
      rcases h.called w hw hlate hparked with hinside | ⟨j, s, hs, howes⟩
      · exact Or.inl hinside
      · exact Or.inr ⟨j, s, List.getElem?_append_left (List.getElem?_eq_some_iff.1 hs).1 ▸ hs, howes⟩
    · intro w hw hlate hdrained s hs
      rcases List.mem_append.1 hs with hmem | hnew
      · exact h.emptied w hw hlate hdrained s hmem
      · rw [List.mem_singleton.1 hnew]
        rfl
  | goOn i =>
    obtain ⟨s, hs, hgo⟩ := Option.bind_eq_some_iff.1 hstep
    exact h.goesOn hs (goOn_cases hgo)
  | close =>
    cases hstep
    exact ⟨h.counted, fun _ _ _ => rfl, h.called, h.emptied⟩
  | wait =>
    cases hstep
    refine ⟨h.counted, ?_, ?_, ?_⟩
    · intro w hw hlate
      rcases List.mem_append.1 hw with hmem | hnew
      · exact h.shut w hmem hlate
      · rw [List.mem_singleton.1 hnew] at hlate
        exact hlate
    · intro w hw hlate hparked
      rcases List.mem_append.1 hw with hmem | hnew
      · exact h.called w hmem hlate hparked
      · rw [List.mem_singleton.1 hnew] at hparked
        cases hparked
    · intro w hw hlate hdrained
      rcases List.mem_append.1 hw with hmem | hnew
      · exact h.emptied w hmem hlate hdrained
      · rw [List.mem_singleton.1 hnew] at hdrained
        cases hdrained
  | watch i =>
    obtain ⟨w, hw, hwatch⟩ := Option.bind_eq_some_iff.1 hstep
    exact h.watches hw (watch_cases hwatch)
  | expire i =>
    obtain ⟨w, hw, hexpire⟩ := Option.bind_eq_some_iff.1 hstep
    obtain ⟨-, rfl⟩ := expire_eq_some_iff.1 hexpire
    exact h.putWait hw nofun nofun
  | rouse i =>
    obtain ⟨w, hw, rfl⟩ := Option.map_eq_some_iff.1 hstep
    rw [w.wake_eq]
    exact h.putWait hw (fun hparked => absurd hparked w.wake_stage_ne)
      fun hdrained => Or.inl (Wait.wake_stage_returned.1 hdrained)

theorem Orderly.of_run (h : run xs {} = some t) : t.Orderly :=
  run_keeps (fun _ _ _ => Orderly.step) h ⟨rfl, nofun, nofun, nofun⟩

/-! ### How a wait ends -/

/-- A wait that began late and found nobody inside. -/
def HasDrained (t : Crowd) (i : Nat) : Prop :=
  ∃ w, t.waits[i]? = some w ∧ w.late = true ∧ w.stage = .returned true

/-- **An end is for good.** -/
theorem HasDrained.step (h : t.HasDrained i) (hstep : t.step x = some t') : t'.HasDrained i := by
  obtain ⟨w, hw, hlate, hdrained⟩ := h
  obtain ⟨w', hw', hfares⟩ := fares_step hstep hw
  refine ⟨w', hw', hfares.late.trans hlate, ?_⟩
  -- the wait is over, so it takes no step of its own
  have hover {stage : WaitStage} (hstage : w.stage = stage) (hne : stage ≠ .returned true) :
      w'.stage = .returned true :=
    absurd (hstage.symm.trans hdrained) hne
  cases hfares with
  | stays => exact hdrained
  | wakes => exact Wait.wake_stage_returned.2 hdrained
  | enrolls hbegun => exact hover hbegun nofun
  | finds => rfl
  | parks woken henrolled => exact hover henrolled nofun
  | rises hparked => exact hover hparked nofun
  | expires woken hparked => exact hover hparked nofun

/-- A wait goes on, and then it or others again. -/
theorem run_watch (hw : t.waits[i]? = some w) (hstep : t.watch i w = some t₁) (hrest : run xs t₁ = some t') :
    run (.watch i :: xs) t = some t' := by
  rw [run_cons, Crowd.step, hw]
  show (t.watch i w).bind (run xs) = some t'
  rw [hstep]
  exact hrest

theorem getElem?_putWait (hw : t.waits[i]? = some w) (stage : WaitStage) :
    (t.putWait i (w.withStage stage)).waits[i]? = some (w.withStage stage) := by
  simp [Crowd.putWait, (List.getElem?_eq_some_iff.1 hw).1]

/-- A wait that is enrolled and finds nobody inside. -/
theorem drains_enrolled {woken : Bool} (hw : t.waits[i]? = some w) (hstage : w.stage = .enrolled woken)
    (hempty : t.gate.inFlight = 0) :
    ∃ t', run [.watch i] t = some t' ∧ t'.waits[i]? = some (w.withStage (.returned true)) := by
  have hfinds : t.watch i w = some (t.putWait i (w.withStage (.returned true))) := by
    simp [watch, hstage, Gate.isEmpty, hempty]
  exact ⟨_, run_watch hw hfinds rfl, getElem?_putWait hw _⟩

/-- **A wait that is awake comes to its end on its own** when nobody is inside. -/
theorem drains_alone (hw : t.waits[i]? = some w) (hempty : t.gate.inFlight = 0) (hawake : w.stage ≠ .parked false)
    (hon : ∀ drained, w.stage ≠ .returned drained) :
    ∃ n t', run (List.replicate n (.watch i)) t = some t' ∧
      t'.waits[i]? = some (w.withStage (.returned true)) := by
  have hbegun {w : Wait} {t : Crowd} (hw : t.waits[i]? = some w) (hempty : t.gate.inFlight = 0)
      (hstage : w.stage = .begun) :
      ∃ t', run [.watch i, .watch i] t = some t' ∧ t'.waits[i]? = some (w.withStage (.returned true)) := by
    have henrolls : t.watch i w = some (t.putWait i (w.withStage (.enrolled false))) := by simp [watch, hstage]
    obtain ⟨t', hrun, hend⟩ := drains_enrolled (getElem?_putWait hw (.enrolled false)) rfl hempty
    exact ⟨t', run_watch hw henrolls hrun, hend⟩
  cases hstage : w.stage with
  | begun => exact ⟨2, hbegun hw hempty hstage⟩
  | enrolled woken => exact ⟨1, drains_enrolled hw hstage hempty⟩
  | parked woken =>
    cases woken with
    | false => exact absurd hstage hawake
    | true =>
      have hrises : t.watch i w = some (t.putWait i (w.withStage .begun)) := by simp [watch, hstage]
      obtain ⟨t', hrun, hend⟩ := hbegun (getElem?_putWait hw .begun) hempty rfl
      exact ⟨3, t', run_watch hw hrises hrun, hend⟩
  | returned drained => exact absurd hstage (hon drained)

/-- Who owes a call is about to leave. -/
theorem isLeaving_of_owesCall (h : s.owesCall = true) : s.isLeaving = true := by
  cases s with
  | uncounted before => rfl
  | calling => rfl
  | _ => cases h

/-- The visits that the counter stands for are inside or in a call. -/
theorem countP_isCounted (visits : List VisitStage) :
    visits.countP VisitStage.isCounted =
      visits.countP (· == .inside) + visits.countP VisitStage.isCountedInCall := by
  induction visits with
  | nil => rfl
  | cons s visits ih =>
    rw [List.countP_cons, List.countP_cons, List.countP_cons, ih]
    cases s <;> simp [VisitStage.isCounted, VisitStage.isCountedInCall] <;> omega

/-- **A drain is sound and loses no wake-up**, in whatever order everybody moves.

When a wait that began after the gate was closed has found nobody inside, nobody is inside, and nobody is let in
ever after. Whenever the counter of a closed gate is zero and no leave is half-way, no such wait is asleep: each
comes to its end by its own next steps. And the counter is the number of guards that are alive and of calls that
were counted and not uncounted yet, so a call that is about to lower it finds it above zero. -/
theorem drain_sound (h : run xs {} = some t) :
    (∀ i, t.HasDrained i → ∀ ys t', run ys t = some t' →
      t'.HasDrained i ∧ ∀ s ∈ t'.visits, s.isAdmitted = false) ∧
    (t.gate.inFlight = 0 → (∀ s ∈ t.visits, s.isLeaving = false) →
      ∀ i w, t.waits[i]? = some w → w.late = true → (∀ drained, w.stage ≠ .returned drained) →
        w.stage ≠ .parked false ∧
          ∃ n t', run (List.replicate n (.watch i)) t = some t' ∧
            t'.waits[i]? = some (w.withStage (.returned true))) ∧
    t.gate.inFlight = t.visits.countP (· == .inside) + t.visits.countP VisitStage.isCountedInCall ∧
    ∀ admitted, .leaving admitted ∈ t.visits → t.gate.inFlight ≠ 0 := by
  have horder : t.Orderly := .of_run h
  refine ⟨?_, ?_, horder.counted.trans (countP_isCounted t.visits), ?_⟩
  · intro i hdrained ys t' hrun
    have horder' : t'.Orderly := run_keeps (fun _ _ _ => Orderly.step) hrun horder
    have hdrained' : t'.HasDrained i :=
      run_keeps (P := fun t => t.HasDrained i) (fun _ _ _ => HasDrained.step) hrun hdrained
    obtain ⟨w, hw, hlate, hstage⟩ := hdrained'
    exact ⟨⟨w, hw, hlate, hstage⟩, horder'.emptied w (List.mem_of_getElem? hw) hlate hstage⟩
  · intro hempty hquiet i w hw hlate hon
    have hawake : w.stage ≠ .parked false := by
      intro hparked
      rcases horder.called w (List.mem_of_getElem? hw) hlate hparked with hinside | ⟨j, s, hs, howes⟩
      · exact hinside hempty
      · have hleaving := hquiet s (List.mem_of_getElem? hs)
        rw [isLeaving_of_owesCall howes] at hleaving
        cases hleaving
    exact ⟨hawake, drains_alone hw hempty hawake hon⟩
  · intro admitted hs
    exact horder.counted.ne_zero hs rfl

/-- One request stays until the gate is closed and somebody waits; another one is turned away, and leaves last. -/
def turnedAwayLast : List CrowdMove :=
  [.arrive, .goOn 0, .goOn 0, .close, .wait, .watch 0, .arrive, .goOn 1, .goOn 0, .goOn 0, .goOn 0, .watch 0,
    .goOn 1, .goOn 1, .goOn 1, .goOn 1, .watch 0, .watch 0, .watch 0]

/-- The waiter that the refused request had kept asleep is woken by it, and the gate stays empty. -/
theorem drain_sound_turned_away :
    ∃ t, run turnedAwayLast {} = some t ∧ t.HasDrained 0 ∧
      ∀ ys t', run ys t = some t' → ∀ s ∈ t'.visits, s.isAdmitted = false := by
  have hrun : run turnedAwayLast {} =
      some ⟨⟨0, true⟩, [.gone, .gone], [⟨.returned true, true⟩]⟩ := rfl
  have hdrained : HasDrained ⟨⟨0, true⟩, [.gone, .gone], [⟨.returned true, true⟩]⟩ 0 := ⟨_, rfl, rfl, rfl⟩
  exact ⟨_, hrun, hdrained, fun ys t' hlater => ((drain_sound hrun).1 0 hdrained ys t' hlater).2⟩

end ModuleHost.Http.Crowd
