import Mathlib
import ModuleHost.Proofs.Logging.Delivery

/-!
# What becomes of a record

What has become of all records when the queue was stopped and everybody has returned.

* `Traffic.settled_fate`: every record was counted once, or it entered the channel once and is in front of the
  stop message, where it was written, or behind it, where nobody read it.
* `Traffic.accounted_iff`: **nothing is lost if and only if nothing entered behind the stop message**, and
  `Traffic.lost_behind_stop` is a run in which something did.
* `Traffic.stop_returns`: a stop is never stuck.
* `Traffic.loses_nothing`: a stop that meets no offer half-way loses nothing.
* `Traffic.offer_alone`, `Traffic.stop_alone`: a party that is left alone does what `LogQueue.offer` and
  `LogQueue.stop` say.
-/

namespace ModuleHost

namespace LogQueue

attribute [ext] LogQueue

/-- What a stop leaves behind. -/
theorem stop_eq {q : LogQueue} (hq : q.stopped = false) (f : RollingFile) (m : Machine) :
    q.stop f m =
      let got := writeAll (queuedRecords q.channel) f m
      ({ q with channel := [], depth := q.depth - (queuedRecords q.channel).length, stopped := true },
        flushFile got.1 got.2) := by
  unfold stop
  rw [if_neg (by simp [hq])]
  rfl

/-- The records of letters in front of a stop. -/
theorem queuedRecords_letters {ls : List Letter} (h : .stop ∉ ls) :
    queuedRecords (ls.map Letter.message) = ls.filterMap Letter.bytes? := by
  induction ls with
  | nil => rfl
  | cons l ls ih =>
    rw [List.mem_cons, not_or] at h
    cases l with
    | record i bytes => exact congrArg (bytes :: ·) (ih h.2)
    | stop => exact absurd rfl h.1

end LogQueue

namespace Traffic

/-- The stop has returned, and so have all offers. -/
structure Settled (t : Traffic) : Prop where
  stopper : t.stopper = .returned
  offers : ∀ o ∈ t.offers, o.isDone = true

/-- **A record that is accounted for**: given to the file once, or counted as shed once, and not both. -/
def Accounted (t : Traffic) (i : Nat) (o : Offer) : Prop :=
  t.handed.count (.record i o.record) + o.isCounted.toNat = 1

instance (t : Traffic) (i : Nat) (o : Offer) : Decidable (t.Accounted i o) :=
  inferInstanceAs (Decidable (_ = _))

variable {t t' t₁ t₂ : Traffic} {i : Nat} {o : Offer} {xs ys : List Move} {x : Move}
  {f : RollingFile} {m : Machine} {queueSize discardThreshold : Nat}

/-! ### What becomes of a record -/

/-- At the end the stop message stands between what was written and what nobody read. -/
theorem Delivery.sent_of_returned (h : t.Delivery) (hr : t.stopper = .returned) :
    t.sent = t.handed ++ .stop :: t.unread := by
  rw [h.sent, h.returned hr, WriterStage.inHand, List.append_assoc]
  rfl

/-- A record that is done was counted, and not sent, or it was sent once. -/
theorem Delivery.fate (h : t.Delivery) (hi : t.offers[i]? = some o) (ho : o.isDone = true) :
    o.isCounted = true ∧ t.sent.count (.record i o.record) = 0 ∨
      o.isCounted = false ∧ t.sent.count (.record i o.record) = 1 := by
  unfold Offer.isDone at ho
  by_cases hstage : o.stage = .entered
  · exact Or.inr ⟨by simp [Offer.isCounted, hstage],
      List.count_eq_one_of_mem h.nodup ((h.entered i o.record).2 ⟨o, hi, rfl, hstage⟩)⟩
  · exact Or.inl ⟨by simpa [Offer.isCounted, hstage] using ho, List.count_eq_zero.2 (h.not_sent hi hstage _)⟩

/-- **What became of the records** when the stop and all offers have returned. What was sent was written up to the
stop message, in the order in which it entered, and not read behind it; what was not sent was counted. -/
theorem settled_fate (h : run xs (start queueSize discardThreshold f m) = some t) (hs : t.Settled) :
    t.sent = t.handed ++ .stop :: t.unread ∧ t.Written f m ∧
      t.queue.dropped = t.offers.countP Offer.isCounted ∧
      ∀ i o, t.offers[i]? = some o →
        o.isCounted = true ∧ t.sent.count (.record i o.record) = 0 ∨
          o.isCounted = false ∧ t.sent.count (.record i o.record) = 1 := by
  have hdelivery : t.Delivery := run_keeps (fun _ _ _ _ => Delivery.step) .of_start h
  have htally : t.Tally := run_keeps (fun _ _ _ _ => Tally.step) .of_start h
  have hwritten : t.Written f m := run_keeps (fun _ _ _ _ => Written.step) .of_start h
  exact ⟨hdelivery.sent_of_returned hs.stopper, hwritten, htally.dropped,
    fun i o hi => hdelivery.fate hi (hs.offers o (List.mem_of_getElem? hi))⟩

/-- **Nothing is lost if and only if nothing entered behind the stop message.** -/
theorem accounted_iff (h : run xs (start queueSize discardThreshold f m) = some t) (hs : t.Settled) :
    (∀ i o, t.offers[i]? = some o → t.Accounted i o) ↔ t.unread = [] := by
  have hdelivery : t.Delivery := run_keeps (fun _ _ _ _ => Delivery.step) .of_start h
  obtain ⟨hsent, -, -, hfate⟩ := settled_fate h hs
  constructor
  · intro hall
    by_contra hne
    obtain ⟨l, hl⟩ := List.exists_mem_of_ne_nil _ hne
    have hnodup := hdelivery.nodup
    rw [hsent] at hnodup
    have hmem : l ∈ t.sent := hsent ▸ List.mem_append_right _ (List.mem_cons_of_mem _ hl)
    cases l with
    | stop => exact (List.nodup_cons.1 (List.nodup_append.1 hnodup).2.1).1 hl
    | record i bytes =>
      obtain ⟨o, hi, rfl, hstage⟩ := (hdelivery.entered i bytes).1 hmem
      have hcount : t.handed.count (.record i o.record) = 0 := List.count_eq_zero.2 fun hhanded =>
        (List.nodup_append.1 hnodup).2.2 _ hhanded _ (List.mem_cons_of_mem _ hl) rfl
      have haccounted := hall i o hi
      unfold Accounted at haccounted
      rw [hcount] at haccounted
      simp [Offer.isCounted, hstage] at haccounted
  · intro hnil i o hi
    have hcount : t.sent.count (.record i o.record) = t.handed.count (.record i o.record) := by
      rw [hsent, hnil, List.count_append]
      simp
    unfold Accounted
    rw [← hcount]
    rcases hfate i o hi with ⟨ho, hzero⟩ | ⟨ho, hone⟩
    · rw [hzero, ho]
      rfl
    · rw [hone, ho]
      rfl

/-- **A record can get lost.** Its producer sees that the queue is not stopped, and sends it when the stop message
was sent before: whatever the sizes, the file and the machine, it is neither written nor counted. -/
theorem lost_behind_stop (queueSize discardThreshold : Nat) (record : Bytes) (f : RollingFile) (m : Machine) :
    ∃ xs t, run xs (start queueSize discardThreshold f m) = some t ∧ t.Settled ∧
      t.offers = [⟨.error, record, .entered⟩] ∧ t.handed = [] ∧ t.queue.dropped = 0 := by
  let flagged : LogQueue := { LogQueue.ofSettings queueSize discardThreshold with stopped := true }
  have hroom : 0 < max queueSize 1 := Nat.lt_of_lt_of_le Nat.zero_lt_one (Nat.le_max_right _ _)
  -- the producer looks at the flag just before it is set
  let t₁ : Traffic := { start queueSize discardThreshold f m with
    queue := flagged
    offers := [⟨.error, record, .admitted⟩]
    stopper := .flagged }
  have h₁ : run [.offer .error record, .proceed 0, .halt] (start queueSize discardThreshold f m) = some t₁ := rfl
  -- the writer takes the stop message while the producer is still on its way to the channel
  let t₂ : Traffic := { t₁ with
    queue := flagged.raise
    offers := [⟨.error, record, .raised⟩]
    writer := .leaving
    stopper := .sent
    sent := [.stop] }
  have h₂ : run [.proceed 0, .proceed 0, .halt, .work] t₁ = some t₂ := by
    have hshed : flagged.mustShed .error = false := Bool.and_false _
    have hlook : t₁.step (.proceed 0) = some { t₁ with offers := [⟨.error, record, .cleared⟩] } := by
      show some (t₁.advance 0 _ (if flagged.mustShed .error then .shedding else .cleared)) = _
      rw [hshed]
      rfl
    let t : Traffic := { t₁ with queue := flagged.raise, offers := [⟨.error, record, .raised⟩] }
    have hpost : t.post? .stop = some (t.posted .stop) := post?_eq_some_iff.2 ⟨rfl, hroom, rfl⟩
    rw [run, hlook]
    show ((t.post? .stop).map fun t => { t with stopper := .sent }).bind (run [.work]) = some t₂
    rw [hpost]
    rfl
  -- the channel still has a reader, who does not look into it any more
  let t₃ : Traffic := { t₂ with
    file := (LogQueue.flushFile f m).1
    machine := (LogQueue.flushFile f m).2
    offers := [⟨.error, record, .entered⟩]
    writer := .ended
    stopper := .returned
    sent := [.stop, .record 0 record]
    unread := [.record 0 record] }
  have h₃ : run [.proceed 0, .work, .work, .halt] t₂ = some t₃ := by
    have hpost : t₂.post? (.record 0 record) = some (t₂.posted (.record 0 record)) :=
      post?_eq_some_iff.2 ⟨rfl, hroom, rfl⟩
    have henter : t₂.step (.proceed 0) =
        some ((t₂.posted (.record 0 record)).advance 0 ⟨.error, record, .raised⟩ .entered) := by
      show t₂.proceed 0 ⟨.error, record, .raised⟩ = _
      simp only [proceed, hpost]
    rw [run, henter]
    rfl
  refine ⟨_, t₃, run_trans h₁ (run_trans h₂ h₃), ⟨rfl, fun o ho => ?_⟩, rfl, rfl, rfl⟩
  rw [List.mem_singleton.1 ho]
  rfl

/-! ### A stop returns -/

/-- The channel keeps its size. -/
theorem capacity_step (hstep : t.step x = some t') : t'.queue.capacity = t.queue.capacity := by
  cases x with
  | offer severity record =>
    cases hstep
    rfl
  | proceed i =>
    obtain ⟨o, -, hproceed⟩ := Option.bind_eq_some_iff.1 hstep
    cases proceed_cases hproceed <;> rfl
  | work => cases work_cases hstep <;> rfl
  | halt => cases halt_cases hstep <;> rfl

/-- **A stop is never stuck**: until it returns, it or the writer can go on. -/
theorem stop_goes_on (h : t.Delivery) (hroom : 0 < t.queue.capacity) (hr : t.stopper ≠ .returned) :
    ∃ x, (x = .work ∨ x = .halt) ∧ (t.step x).isSome = true := by
  cases hw : t.writer with
  | waiting =>
    have hchannel := h.channel
    have hsent := h.sent
    simp only [hw, WriterStage.listens, WriterStage.inHand, if_true, List.append_nil] at hchannel hsent
    cases hunread : t.unread with
    | nil =>
      -- the channel is empty, so there is room in it, and the stop message was not sent
      rw [hunread] at hchannel hsent
      refine ⟨.halt, Or.inr rfl, ?_⟩
      cases hs : t.stopper with
      | idle => simp [step, halt, hs]
      | flagged => simp [step, halt, hs, post?, hw, WriterStage.listens, LogQueue.send?, hchannel, hroom]
      | sent =>
        have hmem := h.stop.2 (Or.inl hs)
        rw [hsent, List.append_nil] at hmem
        exact absurd hmem h.handed
      | returned => exact absurd hs hr
    | cons l unread =>
      rw [hunread] at hchannel
      refine ⟨.work, Or.inl rfl, ?_⟩
      cases l <;> simp [step, work, hw, hchannel, hunread, Letter.message]
  | holding i bytes => exact ⟨.work, Or.inl rfl, by simp [step, work, hw]⟩
  | writing i bytes => exact ⟨.work, Or.inl rfl, by simp [step, work, hw]⟩
  | leaving => exact ⟨.work, Or.inl rfl, by simp [step, work, hw]⟩
  | flushing => exact ⟨.work, Or.inl rfl, by simp [step, work, hw]⟩
  | ended =>
    -- only the stop message makes the writer leave
    have hsent : Letter.stop ∈ t.sent := by
      rw [h.sent, hw]
      simp [WriterStage.inHand]
    have hstage : t.stopper = .sent := (h.stop.1 hsent).resolve_right hr
    exact ⟨.halt, Or.inr rfl, by simp [step, halt, hstage, hw]⟩

/-- How many steps the writer and the one who stops the queue can take at most, while nobody sends a record. -/
def remaining (t : Traffic) : Nat :=
  let writer := match t.writer with
    | .waiting => 0
    | .holding _ _ => 2
    | .writing _ _ => 1
    | .leaving => 2
    | .flushing => 1
    | .ended => 0
  let stopper := match t.stopper with
    | .idle => 6
    | .flagged => 5
    | .sent => 1
    | .returned => 0
  3 * t.unread.length + writer + stopper

/-- Every step of the two is one less. -/
theorem remaining_lt (hx : x = .work ∨ x = .halt) (hstep : t.step x = some t') : t'.remaining < t.remaining := by
  rcases hx with rfl | rfl
  · cases work_cases hstep with
    | takes hw _ hunread =>
      simp [remaining, hw, hunread]
      omega
    | takesStop hw _ hunread =>
      simp [remaining, hw, hunread]
      omega
    | lowers hw => simp [remaining, hw]
    | writes hw => simp [remaining, hw]
    | leaves hw => simp [remaining, hw]
    | flushes hw => simp [remaining, hw]
  · cases halt_cases hstep with
    | flags hs => simp [remaining, hs]
    | sends hs =>
      simp [remaining, hs, posted]
      omega
    | returns hs => simp [remaining, hs]

/-- **A stop returns** when producers leave the two alone for a while. -/
theorem stop_returns (h : run xs (start queueSize discardThreshold f m) = some t) :
    ∃ ys t', (∀ y ∈ ys, y = .work ∨ y = .halt) ∧ run ys t = some t' ∧ t'.stopper = .returned := by
  have hdelivery : t.Delivery := run_keeps (fun _ _ _ _ => Delivery.step) .of_start h
  have hroom : 0 < t.queue.capacity :=
    run_keeps (P := fun t => 0 < t.queue.capacity) (fun _ _ _ _ hP hstep => capacity_step hstep ▸ hP)
      (Nat.lt_of_lt_of_le Nat.zero_lt_one (Nat.le_max_right _ _)) h
  clear h
  induction hn : t.remaining using Nat.strongRecOn generalizing t with
  | ind n ih =>
    by_cases hr : t.stopper = .returned
    · exact ⟨[], t, nofun, rfl, hr⟩
    obtain ⟨x, hx, hsome⟩ := stop_goes_on hdelivery hroom hr
    obtain ⟨t₁, hstep⟩ := Option.isSome_iff_exists.1 hsome
    obtain ⟨ys, t', hys, hrun, hr'⟩ := ih t₁.remaining (hn ▸ remaining_lt hx hstep) (hdelivery.step hstep)
      ((capacity_step hstep).symm ▸ hroom) rfl
    refine ⟨x :: ys, t', List.forall_mem_cons.2 ⟨hx, hys⟩, ?_, hr'⟩
    rw [run, hstep]
    exact hrun

/-! ### A stop that meets nobody half-way -/

/-- **The queue is shut**: it is stopped, no offer is between the flag and the channel, and nothing was sent after
the stop message. -/
structure Shut (t : Traffic) : Prop where
  stopped : t.queue.stopped = true
  halfway : ∀ o ∈ t.offers, o.isHalfway = false
  last : .stop ∈ t.sent → t.sent.getLast? = some .stop

namespace Shut

/-- An offer that is not let in goes on. -/
theorem advance (h : t.Shut) {stage : OfferStage} (hstage : (o.withStage stage).isHalfway = false) {q : LogQueue}
    (hq : q.stopped = t.queue.stopped) : Shut ({ t with queue := q }.advance i o stage) where
  stopped := hq.trans h.stopped
  halfway := fun o' ho' => by
    rcases List.mem_or_eq_of_mem_set ho' with hmem | rfl
    · exact h.halfway o' hmem
    · exact hstage
  last := h.last

/-- **A producer's step.** Whoever comes now is turned away. -/
theorem proceeds (h : t.Shut) (hi : t.offers[i]? = some o) (hstep : t.Proceeds i o t') : t'.Shut := by
  have hhalfway := h.halfway o (List.mem_of_getElem? hi)
  cases hstep with
  | barred => exact h.advance rfl rfl
  | admitted _ hq => exact absurd h.stopped (by simp [hq])
  | shed ho => simp [Offer.isHalfway, ho] at hhalfway
  | cleared ho => simp [Offer.isHalfway, ho] at hhalfway
  | raised ho => simp [Offer.isHalfway, ho] at hhalfway
  | entered ho => simp [Offer.isHalfway, ho] at hhalfway
  | refused ho => simp [Offer.isHalfway, ho] at hhalfway
  | lowered => exact h.advance rfl rfl
  | counted => exact h.advance rfl rfl

/-- **A queue that is shut stays shut.** -/
theorem step (h : t.Shut) (hstep : t.step x = some t') : t'.Shut := by
  cases x with
  | offer severity record =>
    cases hstep
    refine ⟨h.stopped, fun o ho => ?_, h.last⟩
    rcases List.mem_append.1 ho with ho | ho
    · exact h.halfway o ho
    · rw [List.mem_singleton.1 ho]
      rfl
  | proceed i =>
    obtain ⟨o, hi, hproceed⟩ := Option.bind_eq_some_iff.1 hstep
    exact h.proceeds hi (proceed_cases hproceed)
  | work => cases work_cases hstep <;> exact ⟨h.stopped, h.halfway, h.last⟩
  | halt =>
    cases halt_cases hstep with
    | flags => exact ⟨rfl, h.halfway, h.last⟩
    | sends => exact ⟨h.stopped, h.halfway, fun _ => List.getLast?_concat⟩
    | returns => exact ⟨h.stopped, h.halfway, h.last⟩

/-- Nothing is behind the stop message. -/
theorem unread_eq_nil (h : t.Shut) (hdelivery : t.Delivery) (hr : t.stopper = .returned) : t.unread = [] := by
  have hsent := hdelivery.sent_of_returned hr
  have hlast := h.last (hdelivery.stop.2 (Or.inr hr))
  have hnodup := hdelivery.nodup
  rw [hsent] at hlast hnodup
  by_contra hne
  rw [List.getLast?_append, List.getLast?_cons, List.getLast?_eq_some_getLast hne] at hlast
  have hmem : Letter.stop ∈ t.unread := by
    simpa using (Option.some.inj hlast) ▸ List.getLast_mem hne
  exact (List.nodup_cons.1 (List.nodup_append.1 hnodup).2.1).1 hmem

end Shut

/-- **A stop loses nothing if no offer is half-way when it sets the flag**, whoever comes later. -/
theorem loses_nothing (h₁ : run xs (start queueSize discardThreshold f m) = some t₁) (hidle : t₁.stopper = .idle)
    (hclear : ∀ o ∈ t₁.offers, o.isHalfway = false) (h₂ : run (.halt :: ys) t₁ = some t₂) (hs : t₂.Settled) :
    ∀ i o, t₂.offers[i]? = some o → t₂.Accounted i o := by
  have hdelivery₁ : t₁.Delivery := run_keeps (fun _ _ _ _ => Delivery.step) .of_start h₁
  obtain ⟨t, hflag, hrest⟩ := Option.bind_eq_some_iff.1 h₂
  have hshut : t.Shut := by
    cases halt_cases hflag with
    | flags =>
      refine ⟨rfl, hclear, fun hstop => ?_⟩
      rcases hdelivery₁.stop.1 hstop with hr | hr <;> simp [hidle] at hr
    | sends hstage => simp [hidle] at hstage
    | returns hstage => simp [hidle] at hstage
  have hrun : run (xs ++ .halt :: ys) (start queueSize discardThreshold f m) = some t₂ := run_trans h₁ h₂
  have hdelivery₂ : t₂.Delivery := run_keeps (fun _ _ _ _ => Delivery.step) .of_start hrun
  have hshut₂ : t₂.Shut := run_keeps (fun _ _ _ _ => Shut.step) hshut hrest
  exact (accounted_iff hrun hs).2 (hshut₂.unread_eq_nil hdelivery₂ hs.stopper)

/-! ### A party that is left alone -/

/-- The offer that went on. -/
theorem advance_getElem? (hi : t.offers[i]? = some o) (stage : OfferStage) :
    (t.advance i o stage).offers[i]? = some (o.withStage stage) :=
  List.getElem?_set_self (List.getElem?_eq_some_iff.1 hi).1

/-- A producer that is left alone comes to an end, with the queue as given. -/
def Ends (t : Traffic) (i : Nat) (q : LogQueue) : Prop :=
  ∃ n t' o, run (List.replicate n (.proceed i)) t = some t' ∧ t'.queue = q ∧ t'.offers[i]? = some o ∧
    o.isDone = true

namespace Ends

variable {q : LogQueue}

/-- One step further. -/
theorem of_proceed (hi : t.offers[i]? = some o) (hstep : t.proceed i o = some t₁) (h : t₁.Ends i q) :
    t.Ends i q := by
  obtain ⟨n, t', o', hrun, hq, ho', hdone⟩ := h
  refine ⟨n + 1, t', o', ?_, hq, ho', hdone⟩
  rw [List.replicate_succ, run, step, hi, Option.bind_some, hstep]
  exact hrun

/-- The offer is done. -/
theorem of_done (hi : t.offers[i]? = some o) (hdone : o.isDone = true) : t.Ends i t.queue :=
  ⟨0, t, o, rfl, rfl, hi, hdone⟩

/-- The record is counted. -/
theorem of_shedding (hi : t.offers[i]? = some o) (ho : o.stage = .shedding) : t.Ends i t.queue.shed :=
  have hstep : t.proceed i o = some ({ t with queue := t.queue.shed }.advance i o .counted) := by
    simp only [proceed, ho]
  .of_proceed hi hstep (.of_done (advance_getElem? hi .counted) rfl)

/-- The counter is lowered again, and the record is counted. -/
theorem of_refused (hi : t.offers[i]? = some o) (ho : o.stage = .refused) : t.Ends i t.queue.lower.shed :=
  have hstep : t.proceed i o = some ({ t with queue := t.queue.lower }.advance i o .shedding) := by
    simp only [proceed, ho]
  .of_proceed hi hstep (.of_shedding (advance_getElem? hi .shedding) rfl)

/-- The record is in the channel, or there was no room for it. -/
theorem of_raised (hi : t.offers[i]? = some o) (ho : o.stage = .raised) (hlistens : t.writer.listens = true) :
    t.Ends i (match t.queue.send? (.record o.record) with
      | some q => q
      | none => t.queue.lower.shed) := by
  have hpost : t.post? (.record i o.record) = (t.queue.send? (.record o.record)).map fun q =>
      { t with queue := q, sent := t.sent ++ [.record i o.record], unread := t.unread ++ [.record i o.record] } :=
    if_pos hlistens
  cases hsend : t.queue.send? (.record o.record) with
  | some q =>
    rw [hsend, Option.map_some] at hpost
    refine .of_proceed hi (by simp only [proceed, ho, hpost]; rfl) (.of_done (advance_getElem? ?_ .entered) rfl)
    exact hi
  | none =>
    rw [hsend, Option.map_none] at hpost
    have hstep : t.proceed i o = some (t.advance i o .refused) := by simp only [proceed, ho, hpost]
    exact .of_proceed hi hstep (.of_refused (advance_getElem? hi .refused) rfl)

/-- The counter is raised first. -/
theorem of_cleared (hi : t.offers[i]? = some o) (ho : o.stage = .cleared) (hlistens : t.writer.listens = true) :
    t.Ends i (match t.queue.raise.send? (.record o.record) with
      | some q => q
      | none => t.queue.raise.lower.shed) := by
  have hstep : t.proceed i o = some ({ t with queue := t.queue.raise }.advance i o .raised) := by
    simp only [proceed, ho]
  have hend := of_raised (t := { t with queue := t.queue.raise }.advance i o .raised)
    (advance_getElem? hi .raised) rfl hlistens
  exact .of_proceed hi hstep hend

/-- A record that may be shed is, to keep room. -/
theorem of_admitted (hi : t.offers[i]? = some o) (ho : o.stage = .admitted) (hlistens : t.writer.listens = true) :
    t.Ends i (if t.queue.mustShed o.severity then t.queue.shed
      else match t.queue.raise.send? (.record o.record) with
        | some q => q
        | none => t.queue.raise.lower.shed) := by
  split
  · rename_i hshed
    have hstep : t.proceed i o = some (t.advance i o .shedding) := by simp only [proceed, ho, if_pos hshed]
    exact .of_proceed hi hstep (.of_shedding (advance_getElem? hi .shedding) rfl)
  · rename_i hshed
    have hstep : t.proceed i o = some (t.advance i o .cleared) := by simp only [proceed, ho, if_neg hshed]
    have hend := of_cleared (t := t.advance i o .cleared) (advance_getElem? hi .cleared) rfl hlistens
    exact .of_proceed hi hstep hend

end Ends

/-- **A producer that is left alone** does what `LogQueue.offer` says. -/
theorem offer_alone (hi : t.offers[i]? = some o) (ho : o.stage = .begun) (hlistens : t.writer.listens = true) :
    t.Ends i (t.queue.offer o.severity o.record) := by
  unfold LogQueue.offer
  split
  · rename_i hq
    have hstep : t.proceed i o = some (t.advance i o .shedding) := by simp only [proceed, ho, if_pos hq]
    exact .of_proceed hi hstep (.of_shedding (advance_getElem? hi .shedding) rfl)
  · rename_i hq
    have hstep : t.proceed i o = some (t.advance i o .admitted) := by simp only [proceed, ho, if_neg hq]
    have hend := Ends.of_admitted (t := t.advance i o .admitted) (advance_getElem? hi .admitted) rfl hlistens
    exact .of_proceed hi hstep hend

/-- **What only the writer and the one who stops the queue have done**: no record was sent. -/
structure Alone (t t' : Traffic) : Prop where
  offers : t'.offers = t.offers
  capacity : t'.queue.capacity = t.queue.capacity
  discardThreshold : t'.queue.discardThreshold = t.queue.discardThreshold
  sent : t'.sent = t.sent ++ (if t'.stopper = .sent ∨ t'.stopper = .returned then [.stop] else [])

/-- One step of the two. -/
theorem Alone.step (h : t.Alone t₁) (hx : x = .work ∨ x = .halt) (hstep : t₁.step x = some t') : t.Alone t' := by
  rcases hx with rfl | rfl
  · cases work_cases hstep <;> exact ⟨h.offers, h.capacity, h.discardThreshold, h.sent⟩
  · have hsent := h.sent
    cases halt_cases hstep with
    | flags hs => exact { h with sent := by simpa [hs] using hsent }
    | sends hs => exact { h with sent := by simpa [hs, posted] using hsent }
    | returns hs => exact { h with sent := by simpa [hs] using hsent }

/-- The counter when no offer is under way. -/
theorem Tally.depth_of_done (h : t.Tally) (hdone : ∀ o ∈ t.offers, o.isDone = true) :
    t.queue.depth = t.underway := by
  have hahead : t.offers.countP Offer.isAhead = 0 := List.countP_eq_zero.2 fun o ho hahead => by
    have hstage := hdone o ho
    unfold Offer.isDone Offer.isAhead at *
    cases hs : o.stage <;> simp [hs] at hstage hahead
  rw [h.depth, hahead, Nat.add_zero]

/-- **A stop while no offer is under way** does what `LogQueue.stop` says, however the writer and the one who
stops the queue take turns. -/
theorem stop_alone (h : run xs (start queueSize discardThreshold f m) = some t) (hidle : t.stopper = .idle)
    (hdone : ∀ o ∈ t.offers, o.isDone = true) (hw : t.writer = .waiting)
    (hys : ∀ y ∈ ys, y = .work ∨ y = .halt) (h' : run ys t = some t') (hr : t'.stopper = .returned) :
    (t'.queue, t'.file, t'.machine) = t.queue.stop t.file t.machine := by
  have hdelivery : t.Delivery := run_keeps (fun _ _ _ _ => Delivery.step) .of_start h
  have htally : t.Tally := run_keeps (fun _ _ _ _ => Tally.step) .of_start h
  have hwritten : t.Written f m := run_keeps (fun _ _ _ _ => Written.step) .of_start h
  have hdelivery' : t'.Delivery := run_keeps (fun _ _ _ _ => Delivery.step) hdelivery h'
  have htally' : t'.Tally := run_keeps (fun _ _ _ _ => Tally.step) htally h'
  have hwritten' : t'.Written f m := run_keeps (fun _ _ _ _ => Written.step) hwritten h'
  have halone : t.Alone t' :=
    run_keeps (fun _ x hx _ hP => hP.step (hys x hx)) ⟨rfl, rfl, rfl, by simp [hidle]⟩ h'
  have hended := hdelivery'.returned hr
  have hnot : Letter.stop ∉ t.sent := by rw [hdelivery.stop, hidle]; simp
  have hstopped : t.queue.stopped = false := by simpa [hidle] using hdelivery.flag
  have hsent : t.sent = t.handed ++ t.unread := by simpa [hw, WriterStage.inHand] using hdelivery.sent
  -- everything that was sent before is written, and nothing is behind the stop message
  obtain ⟨hhanded, hunread⟩ : t'.handed = t.handed ++ t.unread ∧ t'.unread = [] := by
    have hsplit := hdelivery'.sent_of_returned hr
    rw [halone.sent, if_pos (Or.inr hr), hsent] at hsplit
    obtain ⟨heq, -, hnil⟩ :=
      (List.append_cons_inj_of_notMem (hsent ▸ hnot) List.not_mem_nil).1 hsplit
    exact ⟨heq.symm, hnil.symm⟩
  have hrecords : LogQueue.queuedRecords t.queue.channel = t.unread.filterMap Letter.bytes? := by
    rw [hdelivery.channel, hw]
    exact LogQueue.queuedRecords_letters fun hmem => hnot (hsent ▸ List.mem_append_right _ hmem)
  rw [LogQueue.stop_eq hstopped]
  refine Prod.ext (LogQueue.ext halone.capacity halone.discardThreshold ?_ ?_ ?_ ?_) ?_
  · simp [hdelivery'.channel, hended, WriterStage.listens]
  · have hdepth := htally.depth_of_done hdone
    have hdepth' := htally'.depth_of_done (halone.offers ▸ hdone)
    simp only [underway, hw, hended, hunread, WriterStage.behind, List.countP_nil, Nat.add_zero] at hdepth hdepth'
    show t'.queue.depth = t.queue.depth - (LogQueue.queuedRecords t.queue.channel).length
    rw [hdepth', hdepth, hrecords, List.length_filterMap_eq_countP, Nat.sub_self]
  · exact htally'.dropped.trans (halone.offers ▸ htally.dropped.symm)
  · simpa [hr] using hdelivery'.flag
  · show (t'.file, t'.machine) = _
    unfold Written at hwritten hwritten'
    simp only [hw, reduceCtorEq, if_false] at hwritten
    simp only [hended, if_true, hhanded, List.filterMap_append, LogQueue.writeAll_append, ← hwritten] at hwritten'
    rw [hwritten', hrecords]

end Traffic

end ModuleHost
