import Mathlib
import ModuleHost.Http.Server
import ModuleHost.Proofs.Http.Drain

/-!
# What is said about a stop

A stop closes the gate, waits there like anybody else until nobody is inside or its time is over, and then reads
the counter. In between everybody at the gate takes steps, so what the wait found and what the counter shows are
two moments.

* `Stopping`: the crowd at the gate, how far the stop has come, and whom its wait saw when it looked last.
* `Stopping.stop_alone`: a stop that is left alone reports what `Server.stopReport` says.
* `Stopping.Attentive`: the wait of the stop ended as it looked last.
* `Stopping.report_says`: **what the two parts of a report stand for**, over every run.
-/

namespace ModuleHost.Http

/-- The counter stands for the visit, and a closed gate does not let it in. -/
def VisitStage.isRefused : VisitStage → Bool
  | counted => true
  | leaving false => true
  | _ => false

/-- Who is being refused was not let in. -/
theorem VisitStage.not_admitted_of_isRefused {s : VisitStage} (h : s.isRefused = true) : s.isAdmitted = false := by
  cases s with
  | counted => rfl
  | leaving admitted =>
    cases admitted with
    | false => rfl
    | true => cases h
  | _ => cases h

/-- The wait is about to look at the counter. -/
def WaitStage.isEnrolled : WaitStage → Bool
  | enrolled _ => true
  | _ => false

/-- The visits that the counter stands for. -/
def Crowd.countedVisits (t : Crowd) : List Nat :=
  (List.range t.visits.length).filter fun i => (t.visits[i]?).any VisitStage.isCounted

/-- **How far a stop has come.** -/
inductive StopStage where
  | asked
  /-- It closed the gate. -/
  | closed
  /-- Its wait goes on at the gate, or is over. -/
  | draining (wait : Nat)
  | reported (report : StopReport)
  deriving DecidableEq

/-- **A stop among those who come and wait.** -/
structure Stopping where
  crowd : Crowd := {}
  stage : StopStage := .asked
  /-- The visits that were counted when the wait of the stop last looked at the counter. -/
  seen : List Nat := []

/-- What somebody does next. -/
inductive StopMove where
  /-- Somebody at the gate moves. The wait of the stop is among them. -/
  | other (move : CrowdMove)
  /-- The stop goes on. -/
  | goOn
  deriving DecidableEq

namespace Stopping

/-- With this move the wait of the stop looks at the counter. -/
def looks (t : Stopping) : CrowdMove → Bool
  | .watch i => t.stage == .draining i && (t.crowd.waits[i]?).any (·.stage.isEnrolled)
  | _ => false

/-- Somebody at the gate moves. -/
def moveOther (t : Stopping) (x : CrowdMove) : Option Stopping :=
  (t.crowd.step x).map fun crowd =>
    { t with crowd, seen := if t.looks x then t.crowd.countedVisits else t.seen }

/-- **The next step of the stop.** It reads the counter when its wait is over. -/
def goOn (t : Stopping) : Option Stopping :=
  match t.stage with
  | .asked => (t.crowd.step .close).map fun crowd => { t with crowd, stage := .closed }
  | .closed => (t.crowd.step .wait).map fun crowd => { t with crowd, stage := .draining t.crowd.waits.length }
  | .draining i =>
    match t.crowd.waits[i]? with
    | some ⟨.returned drained, _⟩ => some { t with stage := .reported ⟨drained, t.crowd.gate.inFlight⟩ }
    | _ => none
  | .reported _ => none

/-- **One step**, if there is one to take. -/
def step (t : Stopping) : StopMove → Option Stopping
  | .other x => t.moveOther x
  | .goOn => t.goOn

/-- **Steps of anybody**, one after another. -/
def run (xs : List StopMove) (t : Stopping) : Option Stopping :=
  xs.foldlM step t

variable {t t' : Stopping} {i : Nat} {r : StopReport} {xs : List StopMove} {x : StopMove} {y : CrowdMove}

@[simp] theorem run_nil : run [] t = some t := rfl

@[simp] theorem run_cons : run (x :: xs) t = (t.step x).bind (run xs) := rfl

theorem run_append (xs ys : List StopMove) (t : Stopping) : run (xs ++ ys) t = (run xs t).bind (run ys) :=
  List.foldlM_append

/-- **What a step of the stop does.** -/
inductive GoesOn (t : Stopping) : Stopping → Prop
  | closes (crowd : Crowd) (hstage : t.stage = .asked) (hcrowd : t.crowd.step .close = some crowd) :
    t.GoesOn { t with crowd, stage := .closed }
  | waits (crowd : Crowd) (hstage : t.stage = .closed) (hcrowd : t.crowd.step .wait = some crowd) :
    t.GoesOn { t with crowd, stage := .draining t.crowd.waits.length }
  | reads (i : Nat) (w : Wait) (drained : Bool) (hstage : t.stage = .draining i) (hw : t.crowd.waits[i]? = some w)
      (hover : w.stage = .returned drained) :
    t.GoesOn { t with stage := .reported ⟨drained, t.crowd.gate.inFlight⟩ }

theorem goOn_cases (h : t.goOn = some t') : t.GoesOn t' := by
  unfold goOn at h
  split at h
  · rename_i hstage
    obtain ⟨crowd, hcrowd, rfl⟩ := Option.map_eq_some_iff.1 h
    exact .closes crowd hstage hcrowd
  · rename_i hstage
    obtain ⟨crowd, hcrowd, rfl⟩ := Option.map_eq_some_iff.1 h
    exact .waits crowd hstage hcrowd
  · rename_i i hstage
    split at h
    · rename_i drained late hw
      cases h
      exact .reads i ⟨.returned drained, late⟩ drained hstage hw rfl
    · cases h
  · cases h

/-! ### A stop that is left alone -/

end Stopping

/-- The steps of a wait that nobody disturbs. Its time is over when it has looked once. -/
def Crowd.lookOnce (t : Crowd) (i : Nat) : List CrowdMove :=
  if t.gate.isEmpty then [.watch i, .watch i] else [.watch i, .watch i, .expire i]

/-- **A wait that is left alone** finds at once whether nobody is inside. -/
theorem Crowd.look_alone {t : Crowd} {i : Nat} {w : Wait} (hw : t.waits[i]? = some w) (hbegun : w.stage = .begun) :
    ∃ t', run (t.lookOnce i) t = some t' ∧ t'.gate = t.gate ∧
      t'.waits[i]? = some (w.withStage (.returned t.gate.isEmpty)) := by
  let w₁ := w.withStage (.enrolled false)
  let t₁ := t.putWait i w₁
  have hw₁ : t₁.waits[i]? = some w₁ := getElem?_putWait hw (.enrolled false)
  have henrolls : t.watch i w = some t₁ := by simp [watch, hbegun, t₁, w₁]
  unfold lookOnce
  cases hempty : t.gate.isEmpty with
  | true =>
    let t₂ := t₁.putWait i (w₁.withStage (.returned true))
    have hfinds : t₁.watch i w₁ = some t₂ := by
      show some (t₁.putWait i (w₁.withStage (if t.gate.isEmpty then .returned true else .parked false))) = _
      rw [hempty]
      rfl
    exact ⟨t₂, run_watch hw henrolls (run_watch hw₁ hfinds rfl), rfl, getElem?_putWait hw₁ (.returned true)⟩
  | false =>
    let w₂ := w₁.withStage (.parked false)
    let t₂ := t₁.putWait i w₂
    have hw₂ : t₂.waits[i]? = some w₂ := getElem?_putWait hw₁ (.parked false)
    have hparks : t₁.watch i w₁ = some t₂ := by
      show some (t₁.putWait i (w₁.withStage (if t.gate.isEmpty then .returned true else .parked false))) = _
      rw [hempty]
      rfl
    have hexpires : run [.expire i] t₂ = some (t₂.putWait i (w₂.withStage (.returned false))) := by
      rw [run_cons, step, hw₂]
      rfl
    exact ⟨_, run_watch hw henrolls (run_watch hw₁ hparks hexpires), rfl, getElem?_putWait hw₂ (.returned false)⟩

namespace Stopping

variable {t t' : Stopping} {i : Nat} {r : StopReport} {xs : List StopMove} {x : StopMove} {y : CrowdMove}

/-- **Who is at the gate moves there as if there were no stop.** -/
theorem run_other {ys : List CrowdMove} {crowd : Crowd} (h : Crowd.run ys t.crowd = some crowd) :
    ∃ seen, run (ys.map .other) t = some { t with crowd, seen } := by
  induction ys generalizing t with
  | nil =>
    obtain rfl := Option.some.inj h
    exact ⟨t.seen, rfl⟩
  | cons y ys ih =>
    obtain ⟨crowd₁, hstep, hrest⟩ := Option.bind_eq_some_iff.1 h
    let t₁ : Stopping := { t with
      crowd := crowd₁
      seen := if t.looks y then t.crowd.countedVisits else t.seen }
    have hmove : t.step (.other y) = some t₁ := by
      show (t.crowd.step y).map _ = _
      rw [hstep]
      rfl
    obtain ⟨seen, hrun⟩ := ih (t := t₁) hrest
    refine ⟨seen, ?_⟩
    rw [List.map_cons, run_cons, hmove]
    exact hrun

/-- The steps of a stop that nobody disturbs. -/
def alone (t : Stopping) : List StopMove :=
  [.goOn, .goOn] ++ ((t.crowd.lookOnce t.crowd.waits.length).map .other ++ [.goOn])

/-- **A stop that is left alone** reports what is said about the server at that moment. -/
theorem stop_alone {s : Server} (hgate : s.pipeline.gate = t.crowd.gate) (hstage : t.stage = .asked) :
    ∃ t', run t.alone t = some t' ∧ t'.stage = .reported s.stopReport := by
  let n := t.crowd.waits.length
  let w : Wait := { late := true }
  -- the gate is closed, and the wait of the stop is the last one there
  let c : Crowd := { t.crowd with gate := t.crowd.gate.close.2, waits := t.crowd.waits ++ [w] }
  let t₁ : Stopping := { t with crowd := c, stage := .draining n }
  have hbegins : run [.goOn, .goOn] t = some t₁ := by
    obtain ⟨crowd, stage, seen⟩ := t
    cases hstage
    rfl
  have hw : c.waits[n]? = some w := List.getElem?_concat_length
  obtain ⟨crowd, hlook, hsame, hover⟩ := Crowd.look_alone hw rfl
  obtain ⟨seen, hother⟩ := run_other (t := t₁) hlook
  let t₂ : Stopping := { t₁ with crowd, seen }
  have hreads : run [.goOn] t₂ = some { t₂ with stage := .reported ⟨c.gate.isEmpty, crowd.gate.inFlight⟩ } := by
    show (match crowd.waits[n]? with
      | some ⟨.returned drained, _⟩ => some { t₂ with stage := .reported ⟨drained, crowd.gate.inFlight⟩ }
      | _ => none).bind some = _
    rw [hover]
    rfl
  have hreport : s.stopReport = ⟨c.gate.isEmpty, crowd.gate.inFlight⟩ := by
    rw [hsame]
    unfold Server.stopReport Server.inFlight
    rw [hgate]
    rfl
  refine ⟨{ t₂ with stage := .reported s.stopReport }, ?_, rfl⟩
  have hother : run ((t.crowd.lookOnce n).map .other) t₁ = some t₂ := hother
  rw [alone, run_append, hbegins, Option.bind_some, run_append, hother, Option.bind_some, hreads, hreport]

end Stopping

/-! ### Who is counted -/

namespace Crowd

variable {t t' : Crowd} {i j : Nat} {s : VisitStage} {w w' : Wait} {x : CrowdMove}

/-- The gate is closed, and the visit was not let in before. -/
def Outside (t : Crowd) (i : Nat) : Prop :=
  t.gate.closing = true ∧ ∃ s, t.visits[i]? = some s ∧ s.isAdmitted = false

/-- **Who comes too late stays outside.** -/
theorem Outside.step (h : t.Outside i) (hstep : t.step x = some t') : t'.Outside i := by
  refine ⟨closing_step hstep h.1, ?_⟩
  obtain ⟨hclosing, s, hs, houtside⟩ := h
  cases x with
  | arrive =>
    cases hstep
    exact ⟨s, List.getElem?_append_left (List.getElem?_eq_some_iff.1 hs).1 ▸ hs, houtside⟩
  | goOn j =>
    obtain ⟨v, hv, hgo⟩ := Option.bind_eq_some_iff.1 hstep
    have hput {visits : List VisitStage} {next : VisitStage} (hvisits : visits = t.visits.set j next)
        (hnext : v.isAdmitted = false → next.isAdmitted = false) :
        ∃ s, visits[i]? = some s ∧ s.isAdmitted = false := by
      subst hvisits
      by_cases hij : i = j
      · subst hij
        obtain rfl : v = s := by
          rw [hs] at hv
          exact (Option.some.inj hv).symm
        refine ⟨next, ?_, hnext houtside⟩
        rw [List.getElem?_set_self (List.getElem?_eq_some_iff.1 hs).1]
      · refine ⟨s, ?_, houtside⟩
        rw [List.getElem?_set_ne (Ne.symm hij)]
        exact hs
    cases goOn_cases hgo with
    | counts => exact hput rfl fun _ => rfl
    | turnsAway => exact hput rfl fun _ => rfl
    | comesIn hopen =>
      -- the one step that lets somebody in, and it needs an open gate
      rw [hopen] at hclosing
      cases hclosing
    | departs => exact hput rfl nofun
    | uncounts => exact hput rfl fun _ => rfl
    | calls => exact hput rfl fun _ => rfl
    | passes => exact hput rfl fun _ => rfl
    | wakes => exact hput rfl fun _ => rfl
  | close => cases hstep; exact ⟨s, hs, houtside⟩
  | wait => cases hstep; exact ⟨s, hs, houtside⟩
  | watch j =>
    obtain ⟨w, -, hwatch⟩ := Option.bind_eq_some_iff.1 hstep
    cases watch_cases hwatch with
    | _ => exact ⟨s, hs, houtside⟩
  | expire j =>
    obtain ⟨w, -, hexpire⟩ := Option.bind_eq_some_iff.1 hstep
    obtain ⟨-, rfl⟩ := expire_eq_some_iff.1 hexpire
    exact ⟨s, hs, houtside⟩
  | rouse j =>
    obtain ⟨w, -, rfl⟩ := Option.map_eq_some_iff.1 hstep
    exact ⟨s, hs, houtside⟩

theorem mem_countedVisits_iff : i ∈ t.countedVisits ↔ ∃ s, t.visits[i]? = some s ∧ s.isCounted = true := by
  unfold countedVisits
  rw [List.mem_filter, List.mem_range, Option.any_eq_true]
  constructor
  · exact fun h => h.2
  · rintro ⟨s, hs, hcounted⟩
    exact ⟨(List.getElem?_eq_some_iff.1 hs).1, s, hs, hcounted⟩

/-- **The counter is zero when it stands for no visit.** -/
theorem Counted.countedVisits_eq_nil_iff (h : t.Counted) : t.countedVisits = [] ↔ t.gate.inFlight = 0 := by
  rw [h, List.countP_eq_zero, List.eq_nil_iff_forall_not_mem]
  constructor
  · intro hnone s hs hcounted
    obtain ⟨i, hi⟩ := List.mem_iff_getElem?.1 hs
    exact hnone i (mem_countedVisits_iff.2 ⟨s, hi, hcounted⟩)
  · intro hnone i hi
    obtain ⟨s, hs, hcounted⟩ := mem_countedVisits_iff.1 hi
    exact hnone s (List.mem_of_getElem? hs) hcounted

/-- The visits that the counter stands for were let in, or they are being refused. -/
theorem countP_isCounted_refused (visits : List VisitStage) :
    visits.countP VisitStage.isCounted =
      visits.countP VisitStage.isAdmitted + visits.countP VisitStage.isRefused := by
  induction visits with
  | nil => rfl
  | cons s visits ih =>
    rw [List.countP_cons, List.countP_cons, List.countP_cons, ih]
    cases s with
    | leaving admitted =>
      cases admitted <;> simp [VisitStage.isCounted, VisitStage.isAdmitted, VisitStage.isRefused] <;> omega
    | _ => simp [VisitStage.isCounted, VisitStage.isAdmitted, VisitStage.isRefused] <;> omega

end Crowd

/-! ### What the wait of the stop saw -/

namespace Stopping

variable {t t' : Stopping} {i : Nat} {w : Wait} {r : StopReport} {xs ys : List StopMove} {x : StopMove}
  {y : CrowdMove}

/-- **A wait ends as it looked last**: in time if it saw nobody, and late if it saw somebody. -/
def EndsAsSeen (seen : List Nat) : WaitStage → Prop
  | .parked _ => seen ≠ []
  | .returned drained => drained = true ↔ seen = []
  | _ => True

/-- A wait that looks again is not over. -/
theorem EndsAsSeen.of_isEnrolled {seen : List Nat} {stage : WaitStage} (h : stage.isEnrolled = true) :
    EndsAsSeen seen stage := by
  cases stage with
  | enrolled woken => trivial
  | _ => cases h

/-- A call changes nothing about how a wait ends. -/
theorem EndsAsSeen.wake {seen : List Nat} (h : EndsAsSeen seen w.stage) : EndsAsSeen seen w.wake.stage := by
  unfold Wait.wake
  split
  · trivial
  · rename_i hparked
    rw [hparked] at h
    exact h
  · exact h

/-- **At the gate a step is one of those there**, whoever takes it. -/
theorem crowd_step (hstep : t.step x = some t') : t'.crowd = t.crowd ∨ ∃ y, t.crowd.step y = some t'.crowd := by
  cases x with
  | other y =>
    obtain ⟨crowd, hcrowd, rfl⟩ := Option.map_eq_some_iff.1 hstep
    exact Or.inr ⟨y, hcrowd⟩
  | goOn =>
    cases goOn_cases hstep with
    | closes crowd _ hcrowd => exact Or.inr ⟨.close, hcrowd⟩
    | waits crowd _ hcrowd => exact Or.inr ⟨.wait, hcrowd⟩
    | reads => exact Or.inl rfl

/-- **What every step at the gate keeps**, every step keeps. -/
theorem keeps_crowd {P : Crowd → Prop} (hkeeps : ∀ c y c', P c → c.step y = some c' → P c') (t : Stopping)
    (x : StopMove) (t' : Stopping) (h : P t.crowd) (hstep : t.step x = some t') : P t'.crowd := by
  rcases crowd_step hstep with hsame | ⟨y, hcrowd⟩
  · rw [hsame]
    exact h
  · exact hkeeps _ y _ h hcrowd

/-- What holds at any time, with a stop among those at the gate. -/
structure Attentive (t : Stopping) : Prop where
  orderly : t.crowd.Orderly
  closed : t.stage = .closed → t.crowd.gate.closing = true
  draining : ∀ i, t.stage = .draining i →
    ∃ w, t.crowd.waits[i]? = some w ∧ w.late = true ∧ EndsAsSeen t.seen w.stage

/-- The wait of the stop fares as any wait does, and if it looks, it is written down whom it saw. -/
theorem EndsAsSeen.fares {w' : Wait} (h : EndsAsSeen t.seen w.stage) (horder : t.crowd.Orderly)
    (hstage : t.stage = .draining i) (hw : t.crowd.waits[i]? = some w) (hfares : t.crowd.Fares i w y w') :
    EndsAsSeen (if t.looks y then t.crowd.countedVisits else t.seen) w'.stage := by
  have hnobody := horder.counted.countedVisits_eq_nil_iff
  -- only the look of this very wait is written down, and others may look at the same time
  have hlooks : t.looks y = true ↔ y = .watch i ∧ w.stage.isEnrolled = true := by
    cases y with
    | watch j =>
      simp only [looks, hstage, Bool.and_eq_true, beq_iff_eq, StopStage.draining.injEq, CrowdMove.watch.injEq]
      constructor
      · rintro ⟨rfl, henrolled⟩
        rw [hw] at henrolled
        exact ⟨rfl, henrolled⟩
      · rintro ⟨rfl, henrolled⟩
        rw [hw]
        exact ⟨rfl, henrolled⟩
    | _ => simp [looks]
  have hstays : EndsAsSeen (if t.looks y then t.crowd.countedVisits else t.seen) w.stage := by
    split
    · exact .of_isEnrolled (hlooks.1 ‹_›).2
    · exact h
  cases hfares with
  | stays => exact hstays
  | wakes => exact hstays.wake
  | enrolls => trivial
  | finds woken hstage hempty =>
    rw [if_pos (hlooks.2 ⟨rfl, by rw [hstage]; rfl⟩)]
    exact iff_of_true rfl (hnobody.2 hempty)
  | parks woken hstage hinside =>
    rw [if_pos (hlooks.2 ⟨rfl, by rw [hstage]; rfl⟩)]
    exact mt hnobody.1 hinside
  | rises => trivial
  | expires woken hparked =>
    -- running out of time is no look, so what was seen before stands
    rw [if_neg (by simp [hlooks])]
    rw [hparked] at h
    exact iff_of_false Bool.false_ne_true h

theorem Attentive.goesOn (h : t.Attentive) (hstep : t.GoesOn t') : t'.Attentive := by
  cases hstep with
  | closes crowd _ hcrowd =>
    refine ⟨h.orderly.step hcrowd, fun _ => ?_, nofun⟩
    obtain rfl := Option.some.inj hcrowd
    rfl
  | waits crowd hstage hcrowd =>
    refine ⟨h.orderly.step hcrowd, nofun, fun i hi => ?_⟩
    -- the gate was closed by then, so the wait of the stop is a late one
    obtain rfl := Option.some.inj hcrowd
    obtain rfl := StopStage.draining.inj hi
    exact ⟨_, List.getElem?_concat_length, h.closed hstage, trivial⟩
  | reads => exact ⟨h.orderly, nofun, nofun⟩

/-- **Every step keeps this.** -/
theorem Attentive.step (h : t.Attentive) (hstep : t.step x = some t') : t'.Attentive := by
  cases x with
  | goOn => exact h.goesOn (goOn_cases hstep)
  | other y =>
    obtain ⟨crowd, hcrowd, rfl⟩ := Option.map_eq_some_iff.1 hstep
    refine ⟨h.orderly.step hcrowd, fun hclosed => Crowd.closing_step hcrowd (h.closed hclosed), fun i hstage => ?_⟩
    obtain ⟨w, hw, hlate, hends⟩ := h.draining i hstage
    obtain ⟨w', hw', hfares⟩ := Crowd.fares_step hcrowd hw
    exact ⟨w', hw', hfares.late.trans hlate, hends.fares h.orderly hstage hw hfares⟩

theorem Attentive.of_run (h : run xs {} = some t) : t.Attentive :=
  foldlM_keeps (fun _ _ _ => Attentive.step) h ⟨⟨rfl, nofun, nofun, nofun⟩, nofun, nofun⟩

/-- What the stop finds when it reads the counter and reports. -/
structure Finds (t : Stopping) (r : StopReport) : Prop where
  closing : t.crowd.gate.closing = true
  number : r.abandoned = t.crowd.gate.inFlight
  look : r.drained = true ↔ t.seen = []
  empty : r.drained = true → ∃ i, t.crowd.HasDrained i

theorem Attentive.finds (h : t.Attentive) (hread : t.step .goOn = some t') (hr : t'.stage = .reported r) :
    t.Finds r ∧ t'.crowd = t.crowd := by
  cases goOn_cases hread with
  | closes => cases hr
  | waits => cases hr
  | reads i w drained hstage hw hover =>
    obtain rfl := StopStage.reported.inj hr
    obtain ⟨w', hw', hlate, hends⟩ := h.draining i hstage
    obtain rfl : w = w' := by
      rw [hw] at hw'
      exact Option.some.inj hw'
    rw [hover] at hends
    refine ⟨⟨h.orderly.shut w (List.mem_of_getElem? hw) hlate, rfl, hends, ?_⟩, rfl⟩
    rintro rfl
    exact ⟨i, w, hw, hlate, hover⟩

/-- **Nobody is inside** after somebody found it so, whoever moves. -/
theorem not_admitted_of_hasDrained (horder : t.crowd.Orderly) (hdrained : t.crowd.HasDrained i)
    (hlater : run xs t = some t') {s : VisitStage} (hs : s ∈ t'.crowd.visits) : s.isAdmitted = false := by
  have horder' : t'.crowd.Orderly :=
    foldlM_keeps (keeps_crowd (P := Crowd.Orderly) fun _ _ _ => Crowd.Orderly.step) hlater horder
  have hdrained' : t'.crowd.HasDrained i :=
    foldlM_keeps (keeps_crowd (P := (Crowd.HasDrained · i)) fun _ _ _ => Crowd.HasDrained.step) hlater hdrained
  obtain ⟨w, hw, hlate, hstage⟩ := hdrained'
  exact horder'.emptied w (List.mem_of_getElem? hw) hlate hstage s hs

/-- **What the two parts of a report stand for**, in whatever order everybody moves.

The number is that of the visits that were let in and are inside when it is read, and of those that are being
refused then, and will never be let in. If the report says that everybody left, the wait saw nobody when it looked
last, nobody is inside when the number is read or ever after, and the number is that of the refusals alone. If it
says that the time was over, the wait saw somebody when it looked last, and the number is zero only if all of
those have left since. So the two parts agree if the number is read while the same visits are counted. -/
theorem report_says (h : run xs {} = some t) (hread : t.step .goOn = some t') (hr : t'.stage = .reported r) :
    r.abandoned = t.crowd.visits.countP VisitStage.isAdmitted + t.crowd.visits.countP VisitStage.isRefused ∧
    (∀ (i : Nat) (s : VisitStage), t.crowd.visits[i]? = some s → s.isRefused = true →
      ∀ ys t'', run ys t' = some t'' → ∃ s', t''.crowd.visits[i]? = some s' ∧ s'.isAdmitted = false) ∧
    (r.drained = true → t.seen = [] ∧ r.abandoned = t.crowd.visits.countP VisitStage.isRefused ∧
      ∀ ys t'', run ys t' = some t'' → ∀ s ∈ t''.crowd.visits, s.isAdmitted = false) ∧
    (r.drained = false → t.seen ≠ [] ∧ (r.abandoned = 0 → ∀ i ∈ t.seen, i ∉ t.crowd.countedVisits)) ∧
    (t.seen = t.crowd.countedVisits → (r.drained = true ↔ r.abandoned = 0)) := by
  have horder : t.crowd.Orderly := (Attentive.of_run h).orderly
  obtain ⟨hfinds, hsame⟩ := (Attentive.of_run h).finds hread hr
  have hnobody : t.crowd.countedVisits = [] ↔ r.abandoned = 0 := by
    rw [hfinds.number]
    exact horder.counted.countedVisits_eq_nil_iff
  have hnumber := (hfinds.number.trans horder.counted).trans (Crowd.countP_isCounted_refused t.crowd.visits)
  refine ⟨hnumber, ?_, ?_, ?_, ?_⟩
  · intro i s hs hrefused ys t'' hlater
    have houtside : t'.crowd.Outside i := by
      rw [hsame]
      exact ⟨hfinds.closing, s, hs, VisitStage.not_admitted_of_isRefused hrefused⟩
    exact (foldlM_keeps (keeps_crowd (P := (Crowd.Outside · i)) fun _ _ _ => Crowd.Outside.step) hlater houtside).2
  · intro hdrained
    -- the number was read after the wait had ended, when it was settled already that nobody is let in
    obtain ⟨i, hi⟩ := hfinds.empty hdrained
    have hnever : ∀ ys t'', run ys t' = some t'' → ∀ s ∈ t''.crowd.visits, s.isAdmitted = false :=
      fun ys t'' hlater s hs => not_admitted_of_hasDrained (hsame ▸ horder) (hsame ▸ hi) hlater hs
    have hzero : t.crowd.visits.countP VisitStage.isAdmitted = 0 := by
      rw [List.countP_eq_zero]
      intro s hs
      rw [hnever [] t' rfl s (hsame ▸ hs)]
      exact Bool.false_ne_true
    rw [hzero, Nat.zero_add] at hnumber
    exact ⟨hfinds.look.1 hdrained, hnumber, hnever⟩
  · intro hlate
    refine ⟨fun hseen => ?_, fun hzero i _ hi => ?_⟩
    · rw [hfinds.look.2 hseen] at hlate
      cases hlate
    · rw [hnobody.2 hzero] at hi
      cases hi
  · intro hsame
    rw [hfinds.look, hsame, hnobody]

/-- One request stays inside until the time of the stop is over, and another one comes late and is not refused
yet. -/
def oneStaysOneLate : List StopMove :=
  [.other .arrive, .other (.goOn 0), .other (.goOn 0), .goOn, .goOn, .other (.watch 0), .other (.watch 0),
    .other .arrive, .other (.goOn 1), .other (.expire 0)]

/-- Both of them are in the number, and the late one is never let in. -/
theorem report_says_one_late :
    ∃ t t', run oneStaysOneLate {} = some t ∧ t.step .goOn = some t' ∧ t'.stage = .reported ⟨false, 2⟩ ∧
      2 = t.crowd.visits.countP VisitStage.isAdmitted + t.crowd.visits.countP VisitStage.isRefused ∧ t.seen ≠ [] ∧
      ∀ ys t'', run ys t' = some t'' → ∃ s, t''.crowd.visits[1]? = some s ∧ s.isAdmitted = false := by
  obtain ⟨hnumber, hrefused, -, hlate, -⟩ := report_says (rfl : run oneStaysOneLate {} = some _) rfl rfl
  exact ⟨_, _, rfl, rfl, rfl, hnumber, (hlate rfl).1, hrefused 1 .counted rfl rfl⟩

/-- A request comes when the wait of the stop has seen nobody, and is counted for a moment. -/
def comesAfterLook : List StopMove :=
  [.goOn, .goOn, .other (.watch 0), .other (.watch 0), .other .arrive, .other (.goOn 0), .goOn]

/-- A request leaves when the time of the stop is over, and before the number is read. -/
def leavesAfterTime : List StopMove :=
  [.other .arrive, .other (.goOn 0), .other (.goOn 0), .goOn, .goOn, .other (.watch 0), .other (.watch 0),
    .other (.expire 0), .other (.goOn 0), .other (.goOn 0), .goOn]

/-- **The two parts of a report need not agree.** Everybody left and yet one is in the number, who is being
refused; or the time was over and yet the number is zero. -/
theorem parts_disagree :
    (∃ t, run comesAfterLook {} = some t ∧ t.stage = .reported ⟨true, 1⟩ ∧
      t.crowd.visits.countP VisitStage.isAdmitted = 0 ∧ t.crowd.visits.countP VisitStage.isRefused = 1) ∧
    ∃ t, run leavesAfterTime {} = some t ∧ t.stage = .reported ⟨false, 0⟩ :=
  ⟨⟨_, rfl, rfl, rfl, rfl⟩, _, rfl, rfl⟩

end Stopping

end ModuleHost.Http
