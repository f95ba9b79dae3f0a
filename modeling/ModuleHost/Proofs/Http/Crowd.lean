import Mathlib
import ModuleHost.Http.Gate
import ModuleHost.Proofs.Steps

/-!
# A crowd at the gate

Any number of requests come and go through one gate, somebody closes it, and any number of others wait until
nobody is inside. Each takes its own steps whenever it pleases. A step is one access to what they share: the
counter, the flag, or the waiters that are to be woken.

* `Crowd`: the gate, and how far every visit and every wait has come.
* `Crowd.step`, `Crowd.run`: one step of one party, and any number of steps in any order.
* `Crowd.goOn_cases`, `Crowd.watch_cases`: **what a step does**, said once for each party.
* `Crowd.Fares`, `Crowd.fares_step`: **what becomes of a wait**, whoever moves.
* `Crowd.enter_alone`, `Crowd.leave_alone`: a visit that is left alone does what `Gate.enter` and `Gate.leave`
  say.
-/

namespace ModuleHost.Http

/-! ### The parties -/

/-- **How far a visit has come**: the call that lets a request in or turns it away, its stay, and its leave. -/
inductive VisitStage where
  | arriving
  /-- Counted, and about to look at the flag. -/
  | counted
  /-- Let in: its guard is alive. -/
  | inside
  /-- About to be uncounted, because its stay is over or because it was turned away. -/
  | leaving (admitted : Bool)
  /-- Uncounted, when the counter stood at a number. -/
  | uncounted (before : Nat)
  /-- It was the last one in a closing gate, and wakes the waiters next. -/
  | calling
  | gone
  deriving DecidableEq

namespace VisitStage

/-- The counter stands for the visit. -/
def isCounted : VisitStage → Bool
  | counted => true
  | inside => true
  | leaving _ => true
  | _ => false

/-- The guard of the visit is alive, or is being dropped and the counter still stands for it. -/
def isAdmitted : VisitStage → Bool
  | inside => true
  | leaving true => true
  | _ => false

/-- The visit is in a call, and the counter stands for it: it came to be let in, or it is about to be
uncounted. -/
def isCountedInCall : VisitStage → Bool
  | counted => true
  | leaving _ => true
  | _ => false

/-- A leave has begun and is not over. -/
def isLeaving : VisitStage → Bool
  | leaving _ => true
  | uncounted _ => true
  | calling => true
  | _ => false

/-- The visit brought the counter to zero, and has not woken the waiters yet. -/
def owesCall : VisitStage → Bool
  | uncounted 1 => true
  | calling => true
  | _ => false

end VisitStage

/-- **How far a wait has come.** A waiter that is enrolled can be woken. -/
inductive WaitStage where
  /-- About to enroll, for the first time or again. -/
  | begun
  /-- Enrolled, and about to look at the counter. -/
  | enrolled (woken : Bool)
  /-- The counter was not zero: it sleeps until it is woken. -/
  | parked (woken : Bool)
  | returned (drained : Bool)
  deriving DecidableEq

/-- **A wait** until nobody is inside. -/
structure Wait where
  stage : WaitStage := .begun
  /-- It began after the gate was closed. -/
  late : Bool
  deriving DecidableEq

namespace Wait

/-- The wait at another stage. -/
def withStage (w : Wait) (stage : WaitStage) : Wait :=
  { w with stage }

/-- Wake a waiter, if it is enrolled. -/
def wake (w : Wait) : Wait :=
  match w.stage with
  | .enrolled _ => w.withStage (.enrolled true)
  | .parked _ => w.withStage (.parked true)
  | _ => w

@[simp] theorem withStage_stage (w : Wait) (stage : WaitStage) : (w.withStage stage).stage = stage := rfl

@[simp] theorem withStage_late (w : Wait) (stage : WaitStage) : (w.withStage stage).late = w.late := rfl

@[simp] theorem wake_late (w : Wait) : w.wake.late = w.late := by
  unfold wake
  split <;> rfl

/-- A call changes the stage of a wait at most. -/
theorem wake_eq (w : Wait) : w.wake = w.withStage w.wake.stage := by
  unfold wake
  split <;> rfl

/-- Nobody sleeps on after a call. -/
theorem wake_stage_ne (w : Wait) : w.wake.stage ≠ .parked false := by
  unfold wake
  split
  · simp
  · simp
  · rename_i hparked
    exact hparked false

/-- A call does not bring a wait to its end. -/
theorem wake_stage_returned {w : Wait} {drained : Bool} :
    w.wake.stage = .returned drained ↔ w.stage = .returned drained := by
  unfold wake
  split
  · rename_i hstage
    simp [hstage]
  · rename_i hstage
    simp [hstage]
  · rfl

end Wait

/-- **A gate with all who come and all who wait.** -/
structure Crowd where
  gate : Gate := {}
  visits : List VisitStage := []
  waits : List Wait := []

/-- What somebody does next. -/
inductive CrowdMove where
  /-- A request begins its visit. -/
  | arrive
  /-- A visit goes on. -/
  | goOn (visit : Nat)
  | close
  /-- Somebody begins to wait. -/
  | wait
  /-- A wait goes on. -/
  | watch (wait : Nat)
  /-- The time of a wait is over. -/
  | expire (wait : Nat)
  /-- A waiter is woken without need. -/
  | rouse (wait : Nat)
  deriving DecidableEq

namespace Crowd

/-- A visit comes to a stage. -/
def putVisit (t : Crowd) (i : Nat) (s : VisitStage) : Crowd :=
  { t with visits := t.visits.set i s }

/-- A wait comes to a stage. -/
def putWait (t : Crowd) (i : Nat) (w : Wait) : Crowd :=
  { t with waits := t.waits.set i w }

/-- **The next step of a visit.** -/
def goOn (t : Crowd) (i : Nat) : VisitStage → Option Crowd
  | .arriving => some ({ t with gate := t.gate.count }.putVisit i .counted)
  | .counted => some (t.putVisit i (if t.gate.closing then .leaving false else .inside))
  | .inside => some (t.putVisit i (.leaving true))
  | .leaving _ => some ({ t with gate := t.gate.uncount.2 }.putVisit i (.uncounted t.gate.uncount.1))
  -- the flag is looked at only by who brought the counter to zero
  | .uncounted before => some (t.putVisit i (if before == 1 && t.gate.closing then .calling else .gone))
  | .calling => some ({ t with waits := t.waits.map Wait.wake }.putVisit i .gone)
  | .gone => none

/-- **The next step of a wait.** It sleeps while it is parked and not woken. -/
def watch (t : Crowd) (i : Nat) (w : Wait) : Option Crowd :=
  match w.stage with
  | .begun => some (t.putWait i (w.withStage (.enrolled false)))
  | .enrolled woken => some (t.putWait i (w.withStage (if t.gate.isEmpty then .returned true else .parked woken)))
  | .parked true => some (t.putWait i (w.withStage .begun))
  | .parked false => none
  | .returned _ => none

/-- The time of a wait runs out where it sleeps. -/
def expire (t : Crowd) (i : Nat) (w : Wait) : Option Crowd :=
  match w.stage with
  | .parked _ => some (t.putWait i (w.withStage (.returned false)))
  | _ => none

/-- **One step**, if the party can take it. -/
def step (t : Crowd) : CrowdMove → Option Crowd
  | .arrive => some { t with visits := t.visits ++ [.arriving] }
  | .goOn i => (t.visits[i]?).bind (t.goOn i)
  | .close => some { t with gate := t.gate.close.2 }
  | .wait => some { t with waits := t.waits ++ [{ late := t.gate.closing }] }
  | .watch i => (t.waits[i]?).bind (t.watch i)
  | .expire i => (t.waits[i]?).bind (t.expire i)
  | .rouse i => (t.waits[i]?).map fun w => t.putWait i w.wake

/-- **Steps of anybody**, one after another. -/
def run (xs : List CrowdMove) (t : Crowd) : Option Crowd :=
  xs.foldlM step t

variable {t t' t₁ t₂ : Crowd} {i j : Nat} {s : VisitStage} {w w' : Wait} {xs ys : List CrowdMove} {x : CrowdMove}

/-! ### Runs -/

@[simp] theorem run_nil : run [] t = some t := rfl

@[simp] theorem run_cons : run (x :: xs) t = (t.step x).bind (run xs) := rfl

/-- **What every step keeps, every run keeps.** -/
theorem run_keeps {P : Crowd → Prop} (hstep : ∀ t x t', P t → t.step x = some t' → P t')
    (h : run xs t = some t') (hP : P t) : P t' :=
  foldlM_keeps hstep h hP

/-- One run after another. -/
theorem run_trans (h₁ : run xs t = some t₁) (h₂ : run ys t₁ = some t₂) : run (xs ++ ys) t = some t₂ := by
  have happend : (xs ++ ys).foldlM step t = xs.foldlM step t >>= ys.foldlM step := List.foldlM_append
  rw [run, happend]
  show (run xs t).bind (run ys) = some t₂
  rw [h₁]
  exact h₂

/-! ### What a step does -/

/-- **What a visit's step does.** -/
inductive GoesOn (t : Crowd) (i : Nat) : VisitStage → Crowd → Prop
  | counts : t.GoesOn i .arriving ({ t with gate := t.gate.count }.putVisit i .counted)
  | turnsAway (hclosing : t.gate.closing = true) : t.GoesOn i .counted (t.putVisit i (.leaving false))
  | comesIn (hopen : t.gate.closing = false) : t.GoesOn i .counted (t.putVisit i .inside)
  | departs : t.GoesOn i .inside (t.putVisit i (.leaving true))
  | uncounts (admitted : Bool) :
    t.GoesOn i (.leaving admitted) ({ t with gate := t.gate.uncount.2 }.putVisit i (.uncounted t.gate.inFlight))
  | calls (hclosing : t.gate.closing = true) : t.GoesOn i (.uncounted 1) (t.putVisit i .calling)
  | passes (before : Nat) (hquiet : before = 1 → t.gate.closing = false) :
    t.GoesOn i (.uncounted before) (t.putVisit i .gone)
  | wakes : t.GoesOn i .calling ({ t with waits := t.waits.map Wait.wake }.putVisit i .gone)

/-- **What a wait's step does.** -/
inductive Watches (t : Crowd) (i : Nat) (w : Wait) : Crowd → Prop
  | enrolls (hw : w.stage = .begun) : t.Watches i w (t.putWait i (w.withStage (.enrolled false)))
  | finds (woken : Bool) (hw : w.stage = .enrolled woken) (hempty : t.gate.inFlight = 0) :
    t.Watches i w (t.putWait i (w.withStage (.returned true)))
  | parks (woken : Bool) (hw : w.stage = .enrolled woken) (hinside : t.gate.inFlight ≠ 0) :
    t.Watches i w (t.putWait i (w.withStage (.parked woken)))
  | rises (hw : w.stage = .parked true) : t.Watches i w (t.putWait i (w.withStage .begun))

theorem goOn_cases (h : t.goOn i s = some t') : t.GoesOn i s t' := by
  cases s with
  | arriving =>
    cases h
    exact .counts
  | counted =>
    cases hflag : t.gate.closing with
    | true =>
      simp only [goOn, hflag, if_true] at h
      cases h
      exact .turnsAway hflag
    | false =>
      simp only [goOn, hflag] at h
      cases h
      exact .comesIn hflag
  | inside =>
    cases h
    exact .departs
  | leaving admitted =>
    cases h
    exact .uncounts admitted
  | uncounted before =>
    simp only [goOn, Bool.and_eq_true, beq_iff_eq] at h
    split at h
    · rename_i hlast
      obtain ⟨rfl, hclosing⟩ := hlast
      cases h
      exact .calls hclosing
    · rename_i hquiet
      cases h
      exact .passes before fun hone => by simpa [hone] using hquiet
  | calling =>
    cases h
    exact .wakes
  | gone => cases h

theorem watch_cases (h : t.watch i w = some t') : t.Watches i w t' := by
  unfold watch at h
  cases hw : w.stage with
  | begun =>
    simp only [hw] at h
    cases h
    exact .enrolls hw
  | enrolled woken =>
    simp only [hw, Gate.isEmpty, beq_iff_eq] at h
    cases h
    split
    · rename_i hempty
      exact .finds woken hw hempty
    · rename_i hinside
      exact .parks woken hw hinside
  | parked woken =>
    cases woken with
    | true =>
      simp only [hw] at h
      cases h
      exact .rises hw
    | false => simp [hw] at h
  | returned drained => simp [hw] at h

/-- Time runs out for a waiter that is parked. -/
theorem expire_eq_some_iff :
    t.expire i w = some t' ↔ (∃ woken, w.stage = .parked woken) ∧
      t' = t.putWait i (w.withStage (.returned false)) := by
  unfold expire
  cases hw : w.stage <;> simp [eq_comm]

/-! ### What becomes of a wait -/

/-- **What becomes of a wait** when somebody at the gate moves. -/
inductive Fares (t : Crowd) (i : Nat) (w : Wait) : CrowdMove → Wait → Prop
  | stays (x : CrowdMove) : t.Fares i w x w
  | wakes (x : CrowdMove) : t.Fares i w x w.wake
  | enrolls (hw : w.stage = .begun) : t.Fares i w (.watch i) (w.withStage (.enrolled false))
  | finds (woken : Bool) (hw : w.stage = .enrolled woken) (hempty : t.gate.inFlight = 0) :
    t.Fares i w (.watch i) (w.withStage (.returned true))
  | parks (woken : Bool) (hw : w.stage = .enrolled woken) (hinside : t.gate.inFlight ≠ 0) :
    t.Fares i w (.watch i) (w.withStage (.parked woken))
  | rises (hw : w.stage = .parked true) : t.Fares i w (.watch i) (w.withStage .begun)
  | expires (woken : Bool) (hw : w.stage = .parked woken) : t.Fares i w (.expire i) (w.withStage (.returned false))

theorem Watches.fares (hstep : t.Watches i w t') : ∃ w', t' = t.putWait i w' ∧ t.Fares i w (.watch i) w' := by
  cases hstep with
  | enrolls hw => exact ⟨_, rfl, .enrolls hw⟩
  | finds woken hw hempty => exact ⟨_, rfl, .finds woken hw hempty⟩
  | parks woken hw hinside => exact ⟨_, rfl, .parks woken hw hinside⟩
  | rises hw => exact ⟨_, rfl, .rises hw⟩

/-- One wait comes to a stage, and the others stay. -/
theorem fares_putWait {v v' : Wait} (hw : t.waits[i]? = some w) (hv : t.waits[j]? = some v)
    (hfares : i = j → v = w → t.Fares i w x v') :
    ∃ w', (t.putWait j v').waits[i]? = some w' ∧ t.Fares i w x w' := by
  by_cases hij : i = j
  · subst hij
    obtain rfl : v = w := by
      rw [hv] at hw
      exact Option.some.inj hw
    refine ⟨v', ?_, hfares rfl rfl⟩
    simp [putWait, (List.getElem?_eq_some_iff.1 hv).1]
  · refine ⟨w, ?_, .stays x⟩
    show (t.waits.set j v')[i]? = some w
    rw [List.getElem?_set_ne (Ne.symm hij)]
    exact hw

/-- **Whoever moves, a wait fares in one of these ways.** -/
theorem fares_step (hstep : t.step x = some t') (hw : t.waits[i]? = some w) :
    ∃ w', t'.waits[i]? = some w' ∧ t.Fares i w x w' := by
  cases x with
  | arrive =>
    cases hstep
    exact ⟨w, hw, .stays _⟩
  | goOn j =>
    obtain ⟨s, -, hgo⟩ := Option.bind_eq_some_iff.1 hstep
    cases goOn_cases hgo with
    | wakes =>
      refine ⟨w.wake, ?_, .wakes _⟩
      show (t.waits.map Wait.wake)[i]? = some w.wake
      rw [List.getElem?_map, hw]
      rfl
    | _ => exact ⟨w, hw, .stays _⟩
  | close =>
    cases hstep
    exact ⟨w, hw, .stays _⟩
  | wait =>
    cases hstep
    exact ⟨w, List.getElem?_append_left (List.getElem?_eq_some_iff.1 hw).1 ▸ hw, .stays _⟩
  | watch j =>
    obtain ⟨v, hv, hwatch⟩ := Option.bind_eq_some_iff.1 hstep
    obtain ⟨v', rfl, hfares⟩ := (watch_cases hwatch).fares
    refine fares_putWait hw hv ?_
    rintro rfl rfl
    exact hfares
  | expire j =>
    obtain ⟨v, hv, hexpire⟩ := Option.bind_eq_some_iff.1 hstep
    obtain ⟨⟨woken, hparked⟩, rfl⟩ := expire_eq_some_iff.1 hexpire
    refine fares_putWait hw hv ?_
    rintro rfl rfl
    exact .expires woken hparked
  | rouse j =>
    obtain ⟨v, hv, rfl⟩ := Option.map_eq_some_iff.1 hstep
    refine fares_putWait hw hv ?_
    rintro rfl rfl
    exact .wakes _

theorem Fares.late (h : t.Fares i w x w') : w'.late = w.late := by
  cases h with
  | wakes => exact w.wake_late
  | _ => rfl

/-- **A gate that is closed stays closed.** -/
theorem closing_step (hstep : t.step x = some t') (hclosing : t.gate.closing = true) : t'.gate.closing = true := by
  cases x with
  | arrive => cases hstep; exact hclosing
  | goOn i =>
    obtain ⟨s, -, hgo⟩ := Option.bind_eq_some_iff.1 hstep
    cases goOn_cases hgo with
    | _ => exact hclosing
  | close => cases hstep; rfl
  | wait => cases hstep; exact hclosing
  | watch i =>
    obtain ⟨w, -, hwatch⟩ := Option.bind_eq_some_iff.1 hstep
    cases watch_cases hwatch with
    | _ => exact hclosing
  | expire i =>
    obtain ⟨w, -, hexpire⟩ := Option.bind_eq_some_iff.1 hstep
    obtain ⟨-, rfl⟩ := expire_eq_some_iff.1 hexpire
    exact hclosing
  | rouse i =>
    obtain ⟨w, -, rfl⟩ := Option.map_eq_some_iff.1 hstep
    exact hclosing

/-! ### A visit that is left alone -/

/-- A visit goes on, and then others or it again. -/
theorem run_goOn (hs : t.visits[i]? = some s) (hstep : t.goOn i s = some t₁) (hrest : run xs t₁ = some t') :
    run (.goOn i :: xs) t = some t' := by
  rw [run_cons, step, hs]
  show (t.goOn i s).bind (run xs) = some t'
  rw [hstep]
  exact hrest

theorem getElem?_putVisit (hs : t.visits[i]? = some s) (next : VisitStage) :
    (t.putVisit i next).visits[i]? = some next := by
  have hlt : i < t.visits.length := (List.getElem?_eq_some_iff.1 hs).1
  simp [putVisit, hlt]

/-- The crowd after a leave that nobody disturbs. -/
def afterLeave (t : Crowd) (i : Nat) : Crowd where
  gate := t.gate.leave.2
  visits := t.visits.set i .gone
  waits := if t.gate.leave.1 then t.waits.map Wait.wake else t.waits

/-- **A leave that is left alone** does what the gate's leave says, and wakes the waiters if it says so. -/
theorem leave_alone {admitted : Bool} (hs : t.visits[i]? = some (.leaving admitted)) :
    ∃ n, run (List.replicate n (.goOn i)) t = some (t.afterLeave i) := by
  let t₁ : Crowd := { t with gate := t.gate.uncount.2 }.putVisit i (.uncounted t.gate.inFlight)
  have h₁ : t₁.visits[i]? = some (.uncounted t.gate.inFlight) :=
    getElem?_putVisit (t := { t with gate := t.gate.uncount.2 }) hs _
  cases hlast : t.gate.inFlight == 1 && t.gate.closing with
  | true =>
    let t₂ := t₁.putVisit i .calling
    have hcall : t₁.goOn i (.uncounted t.gate.inFlight) = some t₂ := by
      show some (t₁.putVisit i (if (t.gate.inFlight == 1 && t.gate.closing) = true then _ else _)) = _
      rw [hlast]
      rfl
    have hwake : t₂.goOn i .calling = some (t.afterLeave i) := by
      simp [goOn, afterLeave, Gate.leave, Gate.uncount, hlast, t₁, t₂, putVisit]
    exact ⟨3, run_goOn hs rfl (run_goOn h₁ hcall (run_goOn (getElem?_putVisit h₁ _) hwake rfl))⟩
  | false =>
    have hpass : t₁.goOn i (.uncounted t.gate.inFlight) = some (t.afterLeave i) := by
      show some (t₁.putVisit i (if (t.gate.inFlight == 1 && t.gate.closing) = true then _ else _)) = _
      simp [afterLeave, Gate.leave, Gate.uncount, hlast, t₁, putVisit]
    exact ⟨2, run_goOn hs rfl (run_goOn h₁ hpass rfl)⟩

/-- **A visit that comes and is left alone** is let in or turned away as the gate's enter says. -/
theorem enter_alone (hs : t.visits[i]? = some .arriving) :
    ∃ n t', run (List.replicate n (.goOn i)) t = some t' ∧ t'.gate = t.gate.enter.2 ∧
      t'.visits = t.visits.set i (if t.gate.enter.1 then .inside else .gone) := by
  let t₁ : Crowd := { t with gate := t.gate.count }.putVisit i .counted
  have h₁ : t₁.visits[i]? = some .counted := getElem?_putVisit (t := { t with gate := t.gate.count }) hs _
  cases hflag : t.gate.closing with
  | false =>
    have hinside : t₁.goOn i .counted = some (t₁.putVisit i .inside) := by
      show some (t₁.putVisit i (if t.gate.closing = true then _ else _)) = _
      rw [hflag]
      rfl
    refine ⟨2, t₁.putVisit i .inside, run_goOn hs rfl (run_goOn h₁ hinside rfl), ?_, ?_⟩
    · simp [t₁, putVisit, Gate.enter, Gate.count, hflag]
    · simp [t₁, putVisit, Gate.enter, Gate.count, hflag]
  | true =>
    let t₂ := t₁.putVisit i (.leaving false)
    have haway : t₁.goOn i .counted = some t₂ := by
      show some (t₁.putVisit i (if t.gate.closing = true then _ else _)) = _
      rw [hflag]
      rfl
    obtain ⟨n, hleave⟩ := leave_alone (t := t₂) (getElem?_putVisit h₁ _)
    refine ⟨n + 2, t₂.afterLeave i, run_goOn hs rfl (run_goOn h₁ haway hleave), ?_, ?_⟩
    · simp [t₁, t₂, putVisit, afterLeave, Gate.enter, Gate.count, hflag]
    · simp [t₁, t₂, putVisit, afterLeave, Gate.enter, Gate.count, hflag]

end Crowd

end ModuleHost.Http
