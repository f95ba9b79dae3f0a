import Mathlib
import ModuleHost.Http.Gate
import ModuleHost.Proofs.Steps

/-!
# Slots under contention

Any number of calls ask one limiter for a slot, and those that got one give it back, each in its own steps
whenever it pleases. A step is one access to the counter. A call that is refused is counted for a moment all the
same, so the counter may pass the limit; the slots that are held never do.

* `Contest`: the limiter, and how far every call has come.
* `Contest.goOn_cases`: **what a step does**.
* `Contest.acquire_alone`: a call that is left alone does what `Limiter.acquire` says.
* `Contest.held_le_max`: **the slots that are held are never more than there are**, over every run.
* `Contest.refuses_iff`, `Contest.refused_beside_free_slot`: when a call is refused, and that this may happen
  while no slot is held at all.
-/

namespace ModuleHost.Http

/-- **How far a call for a slot has come**, and the permit that it may have got. -/
inductive CallStage where
  /-- Begun, and about to be counted. -/
  | asking
  /-- There was a slot: the permit is alive. -/
  | holding
  /-- There was none: counted all the same, and about to be uncounted. -/
  | refused
  /-- The permit was given back. -/
  | released
  /-- Returned without a permit. -/
  | turnedAway
  deriving DecidableEq

/-- **A limiter with all who ask it for a slot.** -/
structure Contest where
  limiter : Limiter
  calls : List CallStage := []

/-- What somebody does next. -/
inductive ContestMove where
  /-- A call begins. -/
  | ask
  /-- A call goes on, or its permit is given back. -/
  | goOn (call : Nat)
  deriving DecidableEq

namespace Contest

/-- A limiter that nobody has asked yet. -/
def start (max : Nat) : Contest where
  limiter := { max }

/-- A call comes to a stage. -/
def putCall (t : Contest) (i : Nat) (s : CallStage) : Contest :=
  { t with calls := t.calls.set i s }

/-- **The next step of a call.** What it found when it was counted decides about it. -/
def goOn (t : Contest) (i : Nat) : CallStage → Option Contest
  | .asking => some ({ t with limiter := t.limiter.add.2 }.putCall i
      (if t.limiter.max ≤ t.limiter.add.1 then .refused else .holding))
  | .holding => some ({ t with limiter := t.limiter.release }.putCall i .released)
  | .refused => some ({ t with limiter := t.limiter.sub }.putCall i .turnedAway)
  | .released => none
  | .turnedAway => none

/-- **One step**, if there is one to take. -/
def step (t : Contest) : ContestMove → Option Contest
  | .ask => some { t with calls := t.calls ++ [.asking] }
  | .goOn i => (t.calls[i]?).bind (t.goOn i)

/-- **Steps of anybody**, one after another. -/
def run (xs : List ContestMove) (t : Contest) : Option Contest :=
  xs.foldlM step t

/-- The permits that are alive. -/
def held (t : Contest) : Nat :=
  t.calls.countP (· == .holding)

/-- The calls that were refused and are not uncounted yet. -/
def beingRefused (t : Contest) : Nat :=
  t.calls.countP (· == .refused)

variable {t t' : Contest} {i : Nat} {s : CallStage} {xs : List ContestMove} {x : ContestMove}

@[simp] theorem run_nil : run [] t = some t := rfl

@[simp] theorem run_cons : run (x :: xs) t = (t.step x).bind (run xs) := rfl

/-! ### What a step does -/

/-- **What a call's step does.** -/
inductive GoesOn (t : Contest) (i : Nat) : CallStage → Contest → Prop
  | takes (hfree : t.limiter.inFlight < t.limiter.max) :
    t.GoesOn i .asking ({ t with limiter := t.limiter.add.2 }.putCall i .holding)
  | refuses (hfull : t.limiter.max ≤ t.limiter.inFlight) :
    t.GoesOn i .asking ({ t with limiter := t.limiter.add.2 }.putCall i .refused)
  | releases : t.GoesOn i .holding ({ t with limiter := t.limiter.release }.putCall i .released)
  | turnsAway : t.GoesOn i .refused ({ t with limiter := t.limiter.sub }.putCall i .turnedAway)

theorem goOn_cases (h : t.goOn i s = some t') : t.GoesOn i s t' := by
  cases s with
  | asking =>
    obtain rfl := Option.some.inj h
    by_cases hfull : t.limiter.max ≤ t.limiter.inFlight
    · rw [if_pos (show t.limiter.max ≤ t.limiter.add.1 from hfull)]
      exact .refuses hfull
    · rw [if_neg (show ¬ t.limiter.max ≤ t.limiter.add.1 from hfull)]
      exact .takes (Nat.lt_of_not_le hfull)
  | holding =>
    cases h
    exact .releases
  | refused =>
    cases h
    exact .turnsAway
  | released => cases h
  | turnedAway => cases h

theorem getElem?_putCall (hs : t.calls[i]? = some s) (next : CallStage) :
    (t.putCall i next).calls[i]? = some next := by
  have hlt : i < t.calls.length := (List.getElem?_eq_some_iff.1 hs).1
  simp [putCall, hlt]

theorem step_goOn (hs : t.calls[i]? = some s) : t.step (.goOn i) = t.goOn i s := by
  rw [step, hs]
  rfl

/-- **A call that is left alone** takes a slot or is turned away as `Limiter.acquire` says. -/
theorem acquire_alone (hs : t.calls[i]? = some .asking) :
    ∃ n, run (List.replicate n (.goOn i)) t = some ({ t with limiter := t.limiter.acquire.2 }.putCall i
      (if t.limiter.acquire.1 then .holding else .turnedAway)) := by
  by_cases hfull : t.limiter.max ≤ t.limiter.inFlight
  · let t₁ : Contest := { t with limiter := t.limiter.add.2 }.putCall i .refused
    have hrefused : t.step (.goOn i) = some t₁ := by
      rw [step_goOn hs]
      simp [goOn, Limiter.add, hfull, t₁]
    have hs₁ : t₁.calls[i]? = some .refused := getElem?_putCall (t := { t with limiter := t.limiter.add.2 }) hs _
    refine ⟨2, ?_⟩
    rw [List.replicate_succ, run_cons, hrefused, Option.bind_some, List.replicate_one, run_cons, step_goOn hs₁]
    simp [goOn, t₁, putCall, Limiter.acquire, Limiter.add, hfull]
  · refine ⟨1, ?_⟩
    rw [List.replicate_one, run_cons, step_goOn hs]
    simp [goOn, Limiter.acquire, Limiter.add, hfull]

/-! ### What the counter says -/

/-- **The counter stands for the permits that are alive and for the calls that are being refused**, and there are
no more permits than slots. -/
structure Tallied (slots : Nat) (t : Contest) : Prop where
  max : t.limiter.max = slots
  counter : t.limiter.inFlight = t.held + t.beingRefused
  room : t.held ≤ slots

variable {slots : Nat}

/-- A call that comes to a stage changes both counts by itself at most. -/
theorem counts_putCall (hs : t.calls[i]? = some s) (next : CallStage) :
    (t.putCall i next).held + (s == .holding).toNat = t.held + (next == .holding).toNat ∧
      (t.putCall i next).beingRefused + (s == .refused).toNat = t.beingRefused + (next == .refused).toNat :=
  ⟨countP_set_add _ hs next, countP_set_add _ hs next⟩

/-- Who has a permit or is being refused keeps the counter from zero. -/
theorem Tallied.ne_zero (h : t.Tallied slots) (hs : t.calls[i]? = some s)
    (hcounted : s = .holding ∨ s = .refused) :
    t.limiter.inFlight ≠ 0 := by
  have hmem : s ∈ t.calls := List.mem_of_getElem? hs
  have hcounter := h.counter
  rcases hcounted with rfl | rfl
  · have hpos : 0 < t.held := List.countP_pos_iff.2 ⟨_, hmem, rfl⟩
    omega
  · have hpos : 0 < t.beingRefused := List.countP_pos_iff.2 ⟨_, hmem, rfl⟩
    omega

/-- A call comes to a stage, and the counter is changed by what that call is counted for. A permit is given out
below the limit only: there the counter leaves room for it, whoever is being refused. -/
theorem Tallied.putCall (h : t.Tallied slots) (hs : t.calls[i]? = some s) {l : Limiter} {next : CallStage}
    (hmax : l.max = t.limiter.max)
    (hcounter : l.inFlight + ((s == .holding).toNat + (s == .refused).toNat) =
      t.limiter.inFlight + ((next == .holding).toNat + (next == .refused).toNat))
    (hfree : next = .holding → t.limiter.inFlight < t.limiter.max) :
    Tallied slots ({ t with limiter := l }.putCall i next) := by
  obtain ⟨hheld, hrefused⟩ := counts_putCall hs next
  obtain ⟨hslots, hbefore, hroom⟩ := h
  refine ⟨hmax.trans hslots, ?_, ?_⟩
  · show l.inFlight = (t.putCall i next).held + (t.putCall i next).beingRefused
    omega
  · show (t.putCall i next).held ≤ slots
    by_cases hnext : next = .holding
    · have hone : (next == .holding).toNat = 1 := by
        rw [hnext]
        rfl
      have hbelow := hfree hnext
      omega
    · have hnone : (next == .holding).toNat = 0 := by
        rw [beq_false_of_ne hnext]
        rfl
      omega

/-- **Whatever a call does next keeps the tally.** -/
theorem Tallied.goesOn (h : t.Tallied slots) (hs : t.calls[i]? = some s) (hstep : t.GoesOn i s t') :
    t'.Tallied slots := by
  cases hstep with
  | takes hfree => exact h.putCall hs rfl rfl fun _ => hfree
  | refuses => exact h.putCall hs rfl rfl nofun
  | releases => exact h.putCall hs rfl (Nat.sub_add_cancel (Nat.pos_of_ne_zero (h.ne_zero hs (Or.inl rfl)))) nofun
  | turnsAway => exact h.putCall hs rfl (Nat.sub_add_cancel (Nat.pos_of_ne_zero (h.ne_zero hs (Or.inr rfl)))) nofun

theorem Tallied.step (h : t.Tallied slots) (hstep : t.step x = some t') : t'.Tallied slots := by
  cases x with
  | ask =>
    cases hstep
    refine ⟨h.max, ?_, ?_⟩
    · show t.limiter.inFlight = (t.calls ++ [CallStage.asking]).countP _ + (t.calls ++ [CallStage.asking]).countP _
      rw [List.countP_append, List.countP_append]
      exact h.counter
    · show (t.calls ++ [CallStage.asking]).countP _ ≤ slots
      rw [List.countP_append]
      exact h.room
  | goOn i =>
    obtain ⟨s, hs, hgo⟩ := Option.bind_eq_some_iff.1 hstep
    exact h.goesOn hs (goOn_cases hgo)

theorem Tallied.of_run (h : run xs (start slots) = some t) : t.Tallied slots :=
  foldlM_keeps (fun _ _ _ => Tallied.step) h ⟨rfl, rfl, Nat.zero_le _⟩

/-- **The slots that are held are never more than there are**, in whatever order all calls go on. The counter is
the number of permits that are alive and of calls that are being refused, so who is about to lower it finds it
above zero, and it is the number of permits again whenever nobody is being refused. -/
theorem held_le_max (h : run xs (start slots) = some t) :
    t.held ≤ slots ∧ t.limiter.inFlight = t.held + t.beingRefused ∧
    (∀ (i : Nat) (s : CallStage), t.calls[i]? = some s → s = .holding ∨ s = .refused → t.limiter.inFlight ≠ 0) ∧
    ((∀ s ∈ t.calls, s ≠ .refused) → t.limiter.inFlight = t.held) := by
  have htally : t.Tallied slots := .of_run h
  refine ⟨htally.room, htally.counter, fun i s => htally.ne_zero, fun hquiet => ?_⟩
  have hnone : t.beingRefused = 0 := List.countP_eq_zero.2 fun s hs => by simpa using hquiet s hs
  rw [htally.counter, hnone, Nat.add_zero]

/-- One call holds the only slot while two others are counted and refused, then gives it back: the counter passes
the limit, and is at zero again when both are gone. -/
theorem held_le_max_two_refused :
    ∃ t, run [.ask, .goOn 0, .ask, .goOn 1, .ask, .goOn 2] (start 1) = some t ∧
      t.limiter.inFlight = 3 ∧ t.held ≤ 1 ∧
      ∃ t', run [.goOn 0, .goOn 1, .goOn 2] t = some t' ∧ t'.limiter.inFlight = 0 := by
  have hrun : run [.ask, .goOn 0, .ask, .goOn 1, .ask, .goOn 2] (start 1) =
      some ⟨⟨1, 3⟩, [.holding, .refused, .refused]⟩ := rfl
  exact ⟨_, hrun, rfl, (held_le_max hrun).1, _, rfl, rfl⟩

/-! ### Who is refused -/

/-- **A call is refused** exactly if the permits that are alive and the calls that are being refused leave no slot
at the moment when it is counted. -/
theorem refuses_iff (h : run xs (start slots) = some t) (hs : t.calls[i]? = some .asking) :
    (∃ t', t.step (.goOn i) = some t' ∧ t'.calls[i]? = some .refused) ↔ slots ≤ t.held + t.beingRefused := by
  obtain ⟨hmax, hcounter, -⟩ : t.Tallied slots := .of_run h
  rw [← hcounter, ← hmax, step_goOn hs]
  constructor
  · rintro ⟨t', hgo, hrefused⟩
    cases goOn_cases hgo with
    | takes =>
      rw [getElem?_putCall (t := { t with limiter := t.limiter.add.2 }) hs] at hrefused
      cases hrefused
    | refuses hfull => exact hfull
  · intro hfull
    refine ⟨_, rfl, ?_⟩
    rw [if_pos (show t.limiter.max ≤ t.limiter.add.1 from hfull)]
    exact getElem?_putCall (t := { t with limiter := t.limiter.add.2 }) hs _

/-- **A call may be refused beside a free slot.** The only slot is held while a second call is counted and
refused, and is given back before that call is uncounted. A third call begins now, and is turned away though no
slot is held from its beginning to its end. -/
theorem refused_beside_free_slot :
    ∃ t, run [.ask, .goOn 0, .ask, .goOn 1, .goOn 0] (start 1) = some t ∧
      (∀ n t', run (List.take n [.ask, .goOn 2, .goOn 2]) t = some t' → t'.held = 0) ∧
      ∃ t', run [.ask, .goOn 2, .goOn 2] t = some t' ∧ t'.calls[2]? = some .turnedAway := by
  refine ⟨⟨⟨1, 1⟩, [.released, .refused]⟩, rfl, fun n t' h => ?_, _, rfl, rfl⟩
  match n with
  | 0 | 1 | 2 =>
    cases h
    rfl
  | n + 3 =>
    rw [List.take_of_length_le (Nat.le_add_left 3 n)] at h
    cases h
    rfl

end Contest

end ModuleHost.Http
