import Mathlib
import ModuleHost.Lifecycle.Shutdown
import ModuleHost.Proofs.Steps

/-!
# Waiting for shutdown

Any number of calls trigger one signal while any number of others wait for it, each in its own steps whenever it
pleases. A step is one access to what they share: the flag, or the channel with its receivers. Who waits may also
give up.

* `Vigil`: the signal, whom each receiver belongs to, and how far every call has come.
* `Vigil.goOn_cases`, `Vigil.watch_cases`: **what a step does**, said once for each kind of call.
* `Vigil.trigger_alone`, `Vigil.wait_alone`: a call that is left alone does what `ShutdownSignal.trigger` and
  `ShutdownSignal.resolves` say.
* `Vigil.Orderly`: who listens has a receiver, and it holds the message once that was sent.
* `Vigil.none_missed`: **nobody waits in vain**, over every run.
-/

namespace ModuleHost

/-- **How far a call that triggers has come.** -/
inductive TriggerStage where
  | called
  /-- It set the flag, and sends the message next. -/
  | sending
  /-- It is over; it was the one that sent the message, or the flag had been set before. -/
  | returned (sent : Bool)
  deriving DecidableEq

/-- The call set the flag, and nobody had before. -/
def TriggerStage.isFirst : TriggerStage → Bool
  | sending => true
  | returned sent => sent
  | called => false

/-- **How far a wait has come.** -/
inductive VigilStage where
  | called
  /-- It has a receiver, and is about to look at the flag. -/
  | subscribed
  /-- The flag was not set: it goes on when its receiver has a message. -/
  | listening
  | resolved
  | givenUp
  deriving DecidableEq

/-- The wait has a receiver. -/
def VigilStage.isSeated : VigilStage → Bool
  | subscribed => true
  | listening => true
  | _ => false

/-- The wait goes on, or may. -/
def VigilStage.isOpen : VigilStage → Bool
  | resolved => false
  | givenUp => false
  | _ => true

/-- **A shutdown signal with all who trigger it and all who wait.** -/
structure Vigil where
  signal : ShutdownSignal := {}
  /-- The waits that the receivers belong to, in the order of the receivers. -/
  owners : List Nat := []
  triggers : List TriggerStage := []
  waits : List VigilStage := []
  /-- How many messages were sent. -/
  sent : Nat := 0

/-- What somebody does next. -/
inductive VigilMove where
  /-- Somebody begins to trigger the signal. -/
  | trigger
  /-- A call that triggers goes on. -/
  | goOn (trigger : Nat)
  /-- Somebody begins to wait. -/
  | wait
  /-- A wait goes on. -/
  | watch (wait : Nat)
  /-- A wait is given up. -/
  | giveUp (wait : Nat)
  deriving DecidableEq

namespace Vigil

/-- A call that triggers comes to a stage. -/
def putTrigger (t : Vigil) (i : Nat) (s : TriggerStage) : Vigil :=
  { t with triggers := t.triggers.set i s }

/-- A wait comes to a stage. -/
def putWait (t : Vigil) (i : Nat) (s : VigilStage) : Vigil :=
  { t with waits := t.waits.set i s }

/-- The place of a wait's receiver. -/
def seat (t : Vigil) (i : Nat) : Nat :=
  t.owners.idxOf i

/-- A wait comes to its end, and its receiver goes away with it. -/
def leave (t : Vigil) (i : Nat) (s : VigilStage) : Vigil :=
  { t with signal := t.signal.drop (t.seat i), owners := t.owners.eraseIdx (t.seat i) }.putWait i s

/-- **The next step of a call that triggers.** Only who found the flag unset sends. -/
def goOn (t : Vigil) (i : Nat) : TriggerStage → Option Vigil
  | .called => some ({ t with signal := t.signal.setFlag.2 }.putTrigger i
      (if t.signal.setFlag.1 then .returned false else .sending))
  | .sending => some ({ t with signal := t.signal.broadcast, sent := t.sent + 1 }.putTrigger i (.returned true))
  | .returned _ => none

/-- **The next step of a wait.** There is none where it listens and its receiver has no message. -/
def watch (t : Vigil) (i : Nat) : VigilStage → Option Vigil
  | .called => some ({ t with signal := t.signal.subscribe, owners := t.owners ++ [i] }.putWait i .subscribed)
  | .subscribed => some (if t.signal.triggered then t.leave i .resolved else t.putWait i .listening)
  | .listening =>
    match t.signal.receive (t.seat i) with
    | (true, signal) => some ({ t with signal }.leave i .resolved)
    | (false, _) => none
  | .resolved => none
  | .givenUp => none

/-- A wait is given up, before its first step or later. -/
def giveUp (t : Vigil) (i : Nat) (s : VigilStage) : Option Vigil :=
  if s.isSeated then some (t.leave i .givenUp)
  else if s.isOpen then some (t.putWait i .givenUp)
  else none

/-- **One step**, if there is one to take. -/
def step (t : Vigil) : VigilMove → Option Vigil
  | .trigger => some { t with triggers := t.triggers ++ [.called] }
  | .goOn i => (t.triggers[i]?).bind (t.goOn i)
  | .wait => some { t with waits := t.waits ++ [.called] }
  | .watch i => (t.waits[i]?).bind (t.watch i)
  | .giveUp i => (t.waits[i]?).bind (t.giveUp i)

/-- **Steps of anybody**, one after another. -/
def run (xs : List VigilMove) (t : Vigil) : Option Vigil :=
  xs.foldlM step t

variable {t t' t₁ t₂ : Vigil} {i j : Nat} {s : TriggerStage} {w : VigilStage} {xs ys : List VigilMove}
  {x : VigilMove}

@[simp] theorem run_nil : run [] t = some t := rfl

@[simp] theorem run_cons : run (x :: xs) t = (t.step x).bind (run xs) := rfl

/-! ### What a step does -/

/-- **What a step of a call that triggers does.** -/
inductive GoesOn (t : Vigil) (i : Nat) : TriggerStage → Vigil → Prop
  | sets (hunset : t.signal.triggered = false) :
    t.GoesOn i .called ({ t with signal := t.signal.setFlag.2 }.putTrigger i .sending)
  | passes (hset : t.signal.triggered = true) : t.GoesOn i .called (t.putTrigger i (.returned false))
  | sends : t.GoesOn i .sending
      ({ t with signal := t.signal.broadcast, sent := t.sent + 1 }.putTrigger i (.returned true))

/-- **What a wait's step does.** -/
inductive Watches (t : Vigil) (i : Nat) : VigilStage → Vigil → Prop
  | subscribes :
    t.Watches i .called ({ t with signal := t.signal.subscribe, owners := t.owners ++ [i] }.putWait i .subscribed)
  | sees (hset : t.signal.triggered = true) : t.Watches i .subscribed (t.leave i .resolved)
  | listens (hunset : t.signal.triggered = false) : t.Watches i .subscribed (t.putWait i .listening)
  | receives (hmessage : t.signal.receivers.getD (t.seat i) false = true) :
    t.Watches i .listening (t.leave i .resolved)

theorem goOn_cases (h : t.goOn i s = some t') : t.GoesOn i s t' := by
  cases s with
  | called =>
    obtain rfl := Option.some.inj h
    cases hflag : t.signal.triggered with
    | false =>
      have hfirst : t.signal.setFlag.1 = false := hflag
      rw [hfirst]
      exact .sets hflag
    | true =>
      have hlater : t.signal.setFlag.1 = true := hflag
      have hsame : t.signal.setFlag.2 = t.signal := by
        obtain ⟨⟨triggered, receivers⟩, _, _, _, _⟩ := t
        cases hflag
        rfl
      rw [hlater, hsame]
      exact .passes hflag
  | sending =>
    obtain rfl := Option.some.inj h
    exact .sends
  | returned sent => cases h

/-- A message that is taken out of a receiver is gone with it. -/
theorem leave_received (t : Vigil) (i : Nat) (w : VigilStage) :
    { t with signal := (t.signal.receive (t.seat i)).2 }.leave i w = t.leave i w := by
  unfold leave ShutdownSignal.drop ShutdownSignal.receive
  simp [seat, List.eraseIdx_set_eq]

theorem watch_cases (h : t.watch i w = some t') : t.Watches i w t' := by
  cases w with
  | called =>
    obtain rfl := Option.some.inj h
    exact .subscribes
  | subscribed =>
    obtain rfl := Option.some.inj h
    split
    · exact .sees ‹_›
    · exact .listens (eq_false_of_ne_true ‹_›)
  | listening =>
    cases hmessage : t.signal.receivers.getD (t.seat i) false with
    | false => simp [watch, ShutdownSignal.receive, -List.getD_eq_getElem?_getD, hmessage] at h
    | true =>
      simp only [watch, ShutdownSignal.receive, hmessage, Option.some.injEq] at h
      rw [← h]
      exact leave_received t i .resolved ▸ .receives hmessage
  | resolved => cases h
  | givenUp => cases h

/-- Who gives up a wait takes its receiver along, if it has one. -/
theorem giveUp_cases (h : t.giveUp i w = some t') :
    w.isSeated = true ∧ t' = t.leave i .givenUp ∨ w.isSeated = false ∧ t' = t.putWait i .givenUp := by
  unfold giveUp at h
  split at h
  · rename_i hseated
    exact Or.inl ⟨hseated, (Option.some.inj h).symm⟩
  · rename_i hseated
    split at h
    · exact Or.inr ⟨eq_false_of_ne_true hseated, (Option.some.inj h).symm⟩
    · cases h

/-! ### Calls that are left alone -/

theorem getElem?_putTrigger (hs : t.triggers[i]? = some s) (next : TriggerStage) :
    (t.putTrigger i next).triggers[i]? = some next := by
  have hlt : i < t.triggers.length := (List.getElem?_eq_some_iff.1 hs).1
  simp [putTrigger, hlt]

theorem getElem?_putWait (hw : t.waits[i]? = some w) (next : VigilStage) :
    (t.putWait i next).waits[i]? = some next := by
  have hlt : i < t.waits.length := (List.getElem?_eq_some_iff.1 hw).1
  simp [putWait, hlt]

/-- A call that triggers goes on, and then others or it again. -/
theorem run_goOn (hs : t.triggers[i]? = some s) (hstep : t.goOn i s = some t₁) (hrest : run xs t₁ = some t') :
    run (.goOn i :: xs) t = some t' := by
  rw [run_cons, step, hs]
  show (t.goOn i s).bind (run xs) = some t'
  rw [hstep]
  exact hrest

/-- A wait goes on, and then others or it again. -/
theorem run_watch (hw : t.waits[i]? = some w) (hstep : t.watch i w = some t₁) (hrest : run xs t₁ = some t') :
    run (.watch i :: xs) t = some t' := by
  rw [run_cons, step, hw]
  show (t.watch i w).bind (run xs) = some t'
  rw [hstep]
  exact hrest

/-- **A call that is left alone** triggers the signal as `ShutdownSignal.trigger` says. -/
theorem trigger_alone (hs : t.triggers[i]? = some .called) :
    ∃ n t', run (List.replicate n (.goOn i)) t = some t' ∧ t'.signal = t.signal.trigger ∧
      t'.triggers[i]? = some (.returned !t.signal.triggered) := by
  cases hflag : t.signal.triggered with
  | false =>
    let t₁ : Vigil := { t with signal := t.signal.setFlag.2 }.putTrigger i .sending
    have hs₁ : t₁.triggers[i]? = some .sending :=
      getElem?_putTrigger (t := { t with signal := t.signal.setFlag.2 }) hs _
    have hsets : t.goOn i .called = some t₁ := by simp [goOn, ShutdownSignal.setFlag, hflag, t₁]
    refine ⟨2, _, run_goOn hs hsets (run_goOn hs₁ rfl rfl), ?_, getElem?_putTrigger hs₁ _⟩
    show (t.signal.setFlag.2).broadcast = t.signal.trigger
    simp [ShutdownSignal.trigger, ShutdownSignal.setFlag, hflag]
  | true =>
    have hpasses : t.goOn i .called =
        some ({ t with signal := t.signal.setFlag.2 }.putTrigger i (.returned false)) := by
      simp [goOn, ShutdownSignal.setFlag, hflag]
    refine ⟨1, _, run_goOn hs hpasses rfl, ?_, ?_⟩
    · show t.signal.setFlag.2 = t.signal.trigger
      simp [ShutdownSignal.trigger, ShutdownSignal.setFlag, hflag]
    · exact getElem?_putTrigger (t := { t with signal := t.signal.setFlag.2 }) hs _

/-- **A wait that is left alone** gets through as `ShutdownSignal.resolves` says when nothing happens meanwhile,
and listens otherwise. -/
theorem wait_alone (hw : t.waits[i]? = some .called) :
    ∃ t', run [.watch i, .watch i] t = some t' ∧
      t'.waits[i]? = some (if (t.signal.resolves id).1 then .resolved else .listening) := by
  let t₁ : Vigil := { t with signal := t.signal.subscribe, owners := t.owners ++ [i] }.putWait i .subscribed
  have hw₁ : t₁.waits[i]? = some .subscribed :=
    getElem?_putWait (t := { t with signal := t.signal.subscribe, owners := t.owners ++ [i] }) hw _
  have hresolves : (t.signal.resolves id).1 = t.signal.triggered := by
    cases hflag : t.signal.triggered with
    | false => simp [ShutdownSignal.resolves, ShutdownSignal.subscribe, ShutdownSignal.receive, hflag]
    | true => simp [ShutdownSignal.resolves, ShutdownSignal.subscribe, hflag]
  rw [hresolves]
  refine ⟨_, run_watch hw rfl (run_watch hw₁ rfl rfl), ?_⟩
  show (if t.signal.triggered then t₁.leave i .resolved else t₁.putWait i .listening).waits[i]? = _
  split
  · exact getElem?_putWait (t := { t₁ with signal := _, owners := _ }) hw₁ _
  · exact getElem?_putWait hw₁ _

/-! ### What every step keeps -/

/-- **Nobody is missed**: the flag is set by the first call that triggers, and that call alone sends. Who looks at
the flag or listens has a receiver, and once the message was sent, it waits for everybody who listens. -/
structure Orderly (t : Vigil) : Prop where
  flag : t.signal.triggered = true ↔ ∃ s ∈ t.triggers, s ≠ .called
  first : t.triggers.countP TriggerStage.isFirst = t.signal.triggered.toNat
  sent : t.triggers.countP (· == .returned true) = t.sent
  seats : t.owners.length = t.signal.receivers.length
  seated : ∀ (i : Nat) (w : VigilStage), t.waits[i]? = some w → w.isSeated = true → i ∈ t.owners
  resolved : .resolved ∈ t.waits → t.signal.triggered = true
  delivered : true ∈ t.signal.receivers → t.signal.triggered = true
  message : .returned true ∈ t.triggers → ∀ (k i : Nat) (b : Bool), t.owners[k]? = some i →
    t.signal.receivers[k]? = some b → t.waits[i]? = some .listening → b = true

/-- Whoever set the flag or found it set shows that it is. -/
theorem Orderly.triggered (h : t.Orderly) (hs : t.triggers[i]? = some s) (hon : s ≠ .called) :
    t.signal.triggered = true :=
  h.flag.2 ⟨s, List.mem_of_getElem? hs, hon⟩

/-- A call that triggers comes to a stage, the flag is set now, and the receivers are the same or have the
message. -/
theorem Orderly.putTrigger (h : t.Orderly) (hs : t.triggers[i]? = some s) {signal : ShutdownSignal} {sent : Nat}
    {next : TriggerStage} (hset : signal.triggered = true) (hon : next ≠ .called)
    (hfirst : next.isFirst.toNat + t.signal.triggered.toNat = 1 + s.isFirst.toNat)
    (hsent : sent + (s == .returned true).toNat = t.sent + (next == .returned true).toNat)
    (hreceivers : signal = { t.signal with triggered := true } ∧ next ≠ .returned true ∨
      signal.receivers = t.signal.receivers.map (fun _ => true)) :
    Orderly ({ t with signal, sent }.putTrigger i next) := by
  have hlt : i < t.triggers.length := (List.getElem?_eq_some_iff.1 hs).1
  have hmem : next ∈ t.triggers.set i next := List.mem_set hlt next
  have hcount := countP_set_add TriggerStage.isFirst hs next
  have hcountSent := countP_set_add (· == TriggerStage.returned true) hs next
  have hbefore := h.first
  have hsentBefore := h.sent
  refine ⟨?_, ?_, ?_, ?_, h.seated, fun _ => hset, fun _ => hset, ?_⟩
  · exact ⟨fun _ => ⟨next, hmem, hon⟩, fun _ => hset⟩
  · show (t.triggers.set i next).countP _ = signal.triggered.toNat
    rw [hset]
    simp only [Bool.toNat_true]
    omega
  · show (t.triggers.set i next).countP _ = sent
    omega
  · show t.owners.length = signal.receivers.length
    rcases hreceivers with ⟨rfl, -⟩ | hall
    · exact h.seats
    · rw [hall, List.length_map]
      exact h.seats
  · intro hreturned k j b hk hb hlistening
    rcases hreceivers with ⟨rfl, hnext⟩ | hall
    · have hold : TriggerStage.returned true ∈ t.triggers := by
        rcases List.mem_or_eq_of_mem_set hreturned with hmem | heq
        · exact hmem
        · exact absurd heq.symm hnext
      exact h.message hold k j b hk hb hlistening
    · have hb : (t.signal.receivers.map fun _ => true)[k]? = some b := hall ▸ hb
      rw [List.getElem?_map] at hb
      obtain ⟨_, _, hb⟩ := Option.map_eq_some_iff.1 hb
      exact hb.symm

theorem Orderly.goesOn (h : t.Orderly) (hs : t.triggers[i]? = some s) (hstep : t.GoesOn i s t') : t'.Orderly := by
  cases hstep with
  | sets hunset => exact h.putTrigger hs rfl nofun (by rw [hunset]; rfl) rfl (Or.inl ⟨rfl, nofun⟩)
  | passes hset =>
    refine h.putTrigger hs hset nofun (by rw [hset]; rfl) rfl (Or.inl ⟨?_, nofun⟩)
    rw [← hset]
  | sends =>
    have hset := h.triggered hs nofun
    exact h.putTrigger hs hset nofun (by rw [hset]; rfl) rfl (Or.inr rfl)

/-- A wait comes to a stage, with its receiver if it needs one, and the message is there if it listens. -/
theorem Orderly.putWait (h : t.Orderly) {next : VigilStage} (hseat : next.isSeated = true → i ∈ t.owners)
    (hresolved : next = .resolved → t.signal.triggered = true)
    (hlistening : next = .listening → t.signal.triggered = false) : (t.putWait i next).Orderly := by
  have hother {j : Nat} {w : VigilStage} (hw : (t.waits.set i next)[j]? = some w) :
      (j = i ∧ w = next) ∨ t.waits[j]? = some w := by
    by_cases hji : j = i
    · subst hji
      left
      obtain ⟨hlt, hget⟩ := List.getElem?_eq_some_iff.1 hw
      rw [List.getElem_set_self] at hget
      exact ⟨rfl, hget.symm⟩
    · right
      rw [List.getElem?_set_ne (Ne.symm hji)] at hw
      exact hw
  refine ⟨h.flag, h.first, h.sent, h.seats, ?_, ?_, h.delivered, ?_⟩
  · intro j w hw hseated
    rcases hother hw with ⟨rfl, rfl⟩ | hold
    · exact hseat hseated
    · exact h.seated j w hold hseated
  · intro hmem
    rcases List.mem_or_eq_of_mem_set hmem with hold | hnew
    · exact h.resolved hold
    · exact hresolved hnew.symm
  · intro hreturned k j b hk hb hw
    rcases hother hw with ⟨rfl, hnew⟩ | hold
    · -- who listens from now on found the flag unset, so nobody can have sent yet
      have hset : t.signal.triggered = true := h.flag.2 ⟨_, hreturned, nofun⟩
      rw [hlistening hnew.symm] at hset
      cases hset
    · exact h.message hreturned k j b hk hb hold

/-- **A receiver goes away**, and those behind it move up. Nobody else loses theirs. -/
theorem Orderly.leave (h : t.Orderly) {next : VigilStage} (hgone : next.isSeated = false)
    (hresolved : next = .resolved → t.signal.triggered = true) : (t.leave i next).Orderly := by
  -- while the wait is at a stage without a receiver, it has none to lose
  have hput : (t.putWait i next).Orderly := by
    refine h.putWait (fun hseated => ?_) hresolved fun hlistening => ?_
    · rw [hgone] at hseated
      cases hseated
    · rw [hlistening] at hgone
      cases hgone
  refine ⟨h.flag, h.first, h.sent, ?_, ?_, hput.resolved, fun hmem =>
    h.delivered (List.mem_of_mem_eraseIdx hmem), ?_⟩
  · show (t.owners.eraseIdx (t.seat i)).length = (t.signal.receivers.eraseIdx (t.seat i)).length
    rw [List.length_eraseIdx, List.length_eraseIdx, h.seats]
  · intro j w hw hseated
    show j ∈ t.owners.eraseIdx (t.seat i)
    have hne : j ≠ i := by
      rintro rfl
      obtain ⟨hlt, hget⟩ := List.getElem?_eq_some_iff.1 hw
      have hstage : w = next := by rw [← hget]; exact List.getElem_set_self _
      rw [hstage, hgone] at hseated
      cases hseated
    have herase : t.owners.erase i = t.owners.eraseIdx (t.seat i) := List.erase_eq_eraseIdx_of_idxOf rfl
    rw [← herase]
    exact (List.mem_erase_of_ne hne).2 (hput.seated j w hw hseated)
  · intro hreturned k j b hk hb hw
    have hk : (t.owners.eraseIdx (t.seat i))[k]? = some j := hk
    have hb : (t.signal.receivers.eraseIdx (t.seat i))[k]? = some b := hb
    rw [List.getElem?_eraseIdx] at hk hb
    split at hk
    · rw [if_pos ‹_›] at hb
      exact hput.message hreturned k j b hk hb hw
    · rw [if_neg ‹_›] at hb
      exact hput.message hreturned (k + 1) j b hk hb hw

/-- **One more receiver**, behind all others. Its wait does not listen yet. -/
theorem Orderly.subscribe (h : t.Orderly) (hw : t.waits[i]? = some .called) :
    Orderly { t with signal := t.signal.subscribe, owners := t.owners ++ [i] } := by
  refine ⟨h.flag, h.first, h.sent, ?_, ?_, h.resolved, ?_, ?_⟩
  · show (t.owners ++ [i]).length = (t.signal.receivers ++ [false]).length
    rw [List.length_append, List.length_append, h.seats]
    rfl
  · intro j w hj hseated
    exact List.mem_append_left _ (h.seated j w hj hseated)
  · intro hmem
    have hmem : true ∈ t.signal.receivers ++ [false] := hmem
    exact h.delivered (by simpa using hmem)
  · intro hreturned k j b hk hb hlistening
    have hk : (t.owners ++ [i])[k]? = some j := hk
    have hb : (t.signal.receivers ++ [false])[k]? = some b := hb
    rcases Nat.lt_or_ge k t.owners.length with hlt | hge
    · rw [List.getElem?_append_left hlt] at hk
      rw [List.getElem?_append_left (h.seats ▸ hlt)] at hb
      exact h.message hreturned k j b hk hb hlistening
    · rw [List.getElem?_append_right hge] at hk
      obtain rfl : i = j := by
        have hmem := List.mem_of_getElem? hk
        exact (List.mem_singleton.1 hmem).symm
      have hcalled : some VigilStage.called = some VigilStage.listening := hw.symm.trans hlistening
      cases hcalled

theorem Orderly.watches (h : t.Orderly) (hw : t.waits[i]? = some w) (hstep : t.Watches i w t') : t'.Orderly := by
  cases hstep with
  | subscribes =>
    have hseat : i ∈ t.owners ++ [i] := List.mem_append_right _ (List.mem_singleton_self i)
    exact (h.subscribe hw).putWait (fun _ => hseat) nofun nofun
  | sees hset => exact h.leave rfl fun _ => hset
  | listens hunset => exact h.putWait (fun _ => h.seated i _ hw rfl) nofun fun _ => hunset
  | receives hmessage =>
    refine h.leave rfl fun _ => h.delivered ?_
    rw [List.getD_eq_getElem?_getD] at hmessage
    cases hb : t.signal.receivers[t.seat i]? with
    | none => simp [hb] at hmessage
    | some b =>
      obtain rfl : b = true := by simpa [hb] using hmessage
      exact List.mem_of_getElem? hb

/-- **Every step keeps the vigil in order.** -/
theorem Orderly.step (h : t.Orderly) (hstep : t.step x = some t') : t'.Orderly := by
  cases x with
  | trigger =>
    cases hstep
    refine ⟨?_, ?_, ?_, h.seats, h.seated, h.resolved, h.delivered, ?_⟩
    · rw [h.flag]
      simp
    · show (t.triggers ++ [TriggerStage.called]).countP _ = _
      rw [List.countP_append]
      exact h.first
    · show (t.triggers ++ [TriggerStage.called]).countP _ = _
      rw [List.countP_append]
      exact h.sent
    · intro hreturned
      exact h.message (by simpa using hreturned)
  | goOn i =>
    obtain ⟨s, hs, hgo⟩ := Option.bind_eq_some_iff.1 hstep
    exact h.goesOn hs (goOn_cases hgo)
  | wait =>
    cases hstep
    have hold {i : Nat} {w : VigilStage} (hw : (t.waits ++ [VigilStage.called])[i]? = some w) (hon : w ≠ .called) :
        t.waits[i]? = some w := by
      rcases Nat.lt_or_ge i t.waits.length with hlt | hge
      · rwa [List.getElem?_append_left hlt] at hw
      · rw [List.getElem?_append_right hge] at hw
        exact absurd (List.mem_singleton.1 (List.mem_of_getElem? hw)) hon
    refine ⟨h.flag, h.first, h.sent, h.seats, ?_, ?_, h.delivered, ?_⟩
    · intro i w hw hseated
      refine h.seated i w (hold hw ?_) hseated
      rintro rfl
      cases hseated
    · intro hmem
      exact h.resolved (by simpa using hmem)
    · intro hreturned k i b hk hb hlistening
      exact h.message hreturned k i b hk hb (hold hlistening nofun)
  | watch i =>
    obtain ⟨w, hw, hwatch⟩ := Option.bind_eq_some_iff.1 hstep
    exact h.watches hw (watch_cases hwatch)
  | giveUp i =>
    obtain ⟨w, hw, hgive⟩ := Option.bind_eq_some_iff.1 hstep
    rcases giveUp_cases hgive with ⟨-, rfl⟩ | ⟨-, rfl⟩
    · exact h.leave rfl nofun
    · exact h.putWait nofun nofun nofun

theorem Orderly.of_run (h : run xs {} = some t) : t.Orderly :=
  foldlM_keeps (fun _ _ _ => Orderly.step) h ⟨by simp, rfl, rfl, rfl, nofun, nofun, nofun, nofun⟩

/-! ### How a wait comes to its end -/

/-- The call that set the flag has sent the message and returned. -/
def Announced (t : Vigil) : Prop :=
  .returned true ∈ t.triggers

/-- **The message stays sent.** -/
theorem Announced.step (h : t.Announced) (hstep : t.step x = some t') : t'.Announced := by
  cases x with
  | trigger =>
    cases hstep
    exact List.mem_append_left _ h
  | goOn i =>
    obtain ⟨s, hs, hgo⟩ := Option.bind_eq_some_iff.1 hstep
    obtain ⟨k, hk⟩ := List.mem_iff_getElem?.1 h
    -- a call that has returned does not go on, so whoever moves is another one
    have hstay {t₁ : Vigil} {next : TriggerStage} (hon : s ≠ .returned true) (hsame : t₁.triggers = t.triggers) :
        (t₁.putTrigger i next).Announced := by
      have hne : i ≠ k := by
        rintro rfl
        rw [hs] at hk
        exact hon (Option.some.inj hk)
      refine List.mem_iff_getElem?.2 ⟨k, ?_⟩
      show (t₁.triggers.set i next)[k]? = _
      rw [hsame, List.getElem?_set_ne hne]
      exact hk
    cases goOn_cases hgo with
    | sets => exact hstay nofun rfl
    | passes => exact hstay nofun rfl
    | sends => exact hstay nofun rfl
  | wait =>
    cases hstep
    exact h
  | watch i =>
    obtain ⟨w, -, hwatch⟩ := Option.bind_eq_some_iff.1 hstep
    cases watch_cases hwatch with
    | _ => exact h
  | giveUp i =>
    obtain ⟨w, -, hgive⟩ := Option.bind_eq_some_iff.1 hstep
    rcases giveUp_cases hgive with ⟨-, rfl⟩ | ⟨-, rfl⟩
    · exact h
    · exact h

theorem getElem?_leave (hw : t.waits[i]? = some w) (next : VigilStage) :
    (t.leave i next).waits[i]? = some next :=
  getElem?_putWait (t := { t with signal := _, owners := _ }) hw next

/-- **A wait comes to its end on its own** once the message was sent: it sees the flag, or it has the message. -/
theorem Orderly.resolves_alone (h : t.Orderly) (hannounced : t.Announced) (hw : t.waits[i]? = some w)
    (hopen : w.isOpen = true) :
    ∃ n t', run (List.replicate n (.watch i)) t = some t' ∧ t'.waits[i]? = some .resolved := by
  have hset : t.signal.triggered = true := h.flag.2 ⟨_, hannounced, nofun⟩
  have hsees {t : Vigil} (hset : t.signal.triggered = true) (hw : t.waits[i]? = some .subscribed) :
      ∃ t', run [.watch i] t = some t' ∧ t'.waits[i]? = some .resolved := by
    have hlook : t.watch i .subscribed = some (t.leave i .resolved) := by simp [watch, hset]
    exact ⟨_, run_watch hw hlook rfl, getElem?_leave hw _⟩
  cases w with
  | called =>
    let t₁ : Vigil := { t with signal := t.signal.subscribe, owners := t.owners ++ [i] }
    obtain ⟨t', hrun, hend⟩ := hsees (t := t₁.putWait i .subscribed) hset (getElem?_putWait (t := t₁) hw _)
    exact ⟨2, t', run_watch hw rfl hrun, hend⟩
  | subscribed => exact ⟨1, hsees hset hw⟩
  | listening =>
    have hseat : t.owners[t.seat i]? = some i := List.getElem?_idxOf (h.seated i _ hw rfl)
    have hlt : t.seat i < t.signal.receivers.length := by
      rw [← h.seats]
      exact (List.getElem?_eq_some_iff.1 hseat).1
    have hmessage : t.signal.receivers.getD (t.seat i) false = true := by
      rw [List.getD_eq_getElem _ _ hlt]
      exact h.message hannounced _ i _ hseat (List.getElem?_eq_getElem hlt) hw
    have hreceives : t.watch i .listening = some (t.leave i .resolved) := by
      simp only [watch, ShutdownSignal.receive, hmessage, Option.some.injEq]
      exact leave_received t i .resolved
    exact ⟨1, _, run_watch hw hreceives rfl, getElem?_leave hw _⟩
  | resolved => cases hopen
  | givenUp => cases hopen

/-- **Nobody waits in vain**, in whatever order everybody moves.

One message is sent at most. A wait is over only after some call has set the flag. And from the moment when the
call that set the flag has returned, every wait that is not over, whenever it began, comes to its end by its own
next steps. -/
theorem none_missed (h : run xs {} = some t) :
    t.sent ≤ 1 ∧
    (.resolved ∈ t.waits → t.signal.triggered = true ∧ ∃ s ∈ t.triggers, s ≠ .called) ∧
    (t.Announced → ∀ ys t', run ys t = some t' → ∀ i w, t'.waits[i]? = some w → w.isOpen = true →
      ∃ n t₁, run (List.replicate n (.watch i)) t' = some t₁ ∧ t₁.waits[i]? = some .resolved) := by
  have horder : t.Orderly := .of_run h
  refine ⟨?_, ?_, ?_⟩
  · have hle : t.triggers.countP (· == .returned true) ≤ t.triggers.countP TriggerStage.isFirst := by
      refine List.countP_mono_left fun s _ hs => ?_
      rw [beq_iff_eq.1 hs]
      rfl
    rw [horder.sent, horder.first] at hle
    exact hle.trans (Bool.toNat_le _)
  · intro hresolved
    have hset := horder.resolved hresolved
    exact ⟨hset, horder.flag.1 hset⟩
  · intro hannounced ys t' hrun i w hw hopen
    have horder' : t'.Orderly := foldlM_keeps (fun _ _ _ => Orderly.step) hrun horder
    have hannounced' : t'.Announced := foldlM_keeps (P := Announced) (fun _ _ _ => Announced.step) hrun hannounced
    exact horder'.resolves_alone hannounced' hw hopen

/-- Of two waits one listens before the first trigger comes, and one gets its receiver while the message is under
way. A second trigger finds the flag set, and a third wait begins when all is over. -/
def lateMessage : List VigilMove :=
  [.wait, .watch 0, .watch 0, .trigger, .goOn 0, .wait, .watch 1, .trigger, .goOn 1, .goOn 0, .wait]

/-- All three of them get away. -/
theorem none_missed_lateMessage :
    ∃ t, run lateMessage {} = some t ∧ t.waits = [.listening, .subscribed, .called] ∧ t.Announced ∧
      ∀ i w, t.waits[i]? = some w →
        ∃ n t', run (List.replicate n (.watch i)) t = some t' ∧ t'.waits[i]? = some .resolved := by
  refine ⟨_, rfl, rfl, List.mem_cons_self, fun i w hw => ?_⟩
  have hopen : w.isOpen = true := by
    have hall : ∀ w ∈ [VigilStage.listening, .subscribed, .called], w.isOpen = true := by decide
    exact hall w (List.mem_of_getElem? hw)
  exact (none_missed (rfl : run lateMessage {} = some _)).2.2 List.mem_cons_self [] _ rfl i w hw hopen

end Vigil

end ModuleHost
