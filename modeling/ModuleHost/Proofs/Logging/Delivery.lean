import Mathlib
import ModuleHost.Proofs.Logging.Traffic
import ModuleHost.Proofs.Steps

/-!
# Messages on their way

What holds at any time in the traffic around a queue, whoever takes which step: where every message is, what the
counter and the count of shed records say, and what the file got.

* `Traffic.Delivery`: **what was sent is with the file, in the writer's hand or unread**, in this order, and a
  record is sent once.
* `Traffic.Tally`: **the counter never lags behind the channel**, and every record that was shed is counted.
* `Traffic.Written`: the file got the records that were handed to it.
-/

namespace ModuleHost

/-- More records after some records. -/
theorem LogQueue.writeAll_append (rs rs' : List Bytes) (f : RollingFile) (m : Machine) :
    writeAll (rs ++ rs') f m = writeAll rs' (writeAll rs f m).1 (writeAll rs f m).2 := by
  induction rs generalizing f m with
  | nil => rfl
  | cons r rs ih => exact ih _ _

namespace Traffic

/-- The offer of a record has entered the channel. -/
def Entered (t : Traffic) (i : Nat) (bytes : Bytes) : Prop :=
  ∃ o, t.offers[i]? = some o ∧ o.record = bytes ∧ o.stage = .entered

/-- **Where a message is on its way.** What was sent is with the file, in the writer's hand or unread, in this
order. -/
structure Delivery (t : Traffic) : Prop where
  channel : t.queue.channel = if t.writer.listens then t.unread.map Letter.message else []
  sent : t.sent = t.handed ++ t.writer.inHand ++ t.unread
  handed : .stop ∉ t.handed
  nodup : t.sent.Nodup
  entered : ∀ i bytes, .record i bytes ∈ t.sent ↔ t.Entered i bytes
  flag : t.queue.stopped = true ↔ t.stopper ≠ .idle
  stop : .stop ∈ t.sent ↔ t.stopper = .sent ∨ t.stopper = .returned
  returned : t.stopper = .returned → t.writer = .ended

/-- Records that left their producers and that the writer has not lowered the counter for. -/
def underway (t : Traffic) : Nat :=
  t.unread.countP (fun l => l.bytes?.isSome) + t.writer.behind

/-- **What the counts say.** The counter stands for the records that are under way and for those that are ahead,
so it never lags behind the channel. -/
structure Tally (t : Traffic) : Prop where
  dropped : t.queue.dropped = t.offers.countP Offer.isCounted
  depth : t.queue.depth = t.underway + t.offers.countP Offer.isAhead

variable {t t' t₁ : Traffic} {i j : Nat} {o : Offer} {l : Letter} {bytes : Bytes} {x : Move} {f : RollingFile}
  {m : Machine} {queueSize discardThreshold : Nat}

/-! ### Where the messages are -/

/-- An offer that comes to a stage enters the channel, or the stage is another. -/
theorem entered_advance (hi : t.offers[i]? = some o) (ho : o.stage ≠ .entered) (stage : OfferStage) :
    (t.advance i o stage).Entered j bytes ↔
      t.Entered j bytes ∨ stage = .entered ∧ j = i ∧ o.record = bytes := by
  have hlt : i < t.offers.length := (List.getElem?_eq_some_iff.1 hi).1
  unfold Entered advance
  simp only [List.getElem?_set, hlt]
  by_cases hij : i = j
  · subst hij
    simp only [if_true, Option.some.injEq]
    constructor
    · rintro ⟨_, rfl, hbytes, hstage⟩
      exact Or.inr ⟨hstage, trivial, hbytes⟩
    · rintro (⟨o', ho', -, hstage⟩ | ⟨hstage, -, hbytes⟩)
      · rw [hi] at ho'
        cases ho'
        exact absurd hstage ho
      · exact ⟨o.withStage stage, rfl, hbytes, hstage⟩
  · simp only [if_neg hij, Ne.symm hij, false_and, and_false, or_false]

/-- A new offer has not entered. -/
theorem entered_offer (severity : Severity) (record : Bytes) :
    Entered { t with offers := t.offers ++ [{ severity, record }] } i bytes ↔ t.Entered i bytes := by
  unfold Entered
  simp only [List.getElem?_append]
  split
  · exact Iff.rfl
  · rename_i hle
    rw [List.getElem?_eq_none (not_lt.1 hle)]
    simp [List.getElem?_singleton]

namespace Delivery

/-- The counts do not matter to the messages. -/
theorem counts (h : t.Delivery) {q : LogQueue} (hq : q.channel = t.queue.channel)
    (hstopped : q.stopped = t.queue.stopped) : Delivery { t with queue := q } :=
  { h with
    channel := hq.trans h.channel
    flag := by
      show q.stopped = true ↔ _
      rw [hstopped]
      exact h.flag }

/-- An offer goes on outside the channel. -/
theorem advance (h : t.Delivery) (hi : t.offers[i]? = some o) (ho : o.stage ≠ .entered) {stage : OfferStage}
    (hstage : stage ≠ .entered) : (t.advance i o stage).Delivery :=
  { h with
    entered := fun j bytes => by
      rw [entered_advance hi ho, or_iff_left (fun hs => hstage hs.1)]
      exact h.entered j bytes }

/-- The channel after a letter was sent. -/
theorem channel_posted (h : t.Delivery) (hlistens : t.writer.listens = true) (l : Letter) :
    (t.posted l).queue.channel =
      if t.writer.listens then (t.posted l).unread.map Letter.message else [] := by
  show t.queue.channel ++ [l.message] = if _ then (t.unread ++ [l]).map Letter.message else []
  rw [h.channel, if_pos hlistens, if_pos hlistens, List.map_append, List.map_singleton]

/-- What was sent, after a letter was sent. -/
theorem sent_posted (h : t.Delivery) (l : Letter) :
    (t.posted l).sent = t.handed ++ t.writer.inHand ++ (t.posted l).unread := by
  show t.sent ++ [l] = t.handed ++ t.writer.inHand ++ (t.unread ++ [l])
  rw [h.sent, List.append_assoc _ t.unread]

/-- A letter that was not sent before comes once. -/
theorem nodup_posted (h : t.Delivery) (hnew : l ∉ t.sent) : (t.posted l).sent.Nodup := by
  show (t.sent ++ [l]).Nodup
  rw [List.nodup_append_comm]
  exact List.nodup_cons.2 ⟨hnew, h.nodup⟩

/-- A record that is on its way into the channel was not sent before. -/
theorem not_sent (h : t.Delivery) (hi : t.offers[i]? = some o) (ho : o.stage ≠ .entered) (bytes : Bytes) :
    Letter.record i bytes ∉ t.sent := by
  intro hmem
  obtain ⟨o', ho', -, hstage⟩ := (h.entered i bytes).1 hmem
  rw [hi] at ho'
  cases ho'
  exact ho hstage

/-- **A producer's step.** -/
theorem proceeds (h : t.Delivery) (hi : t.offers[i]? = some o) (hstep : t.Proceeds i o t') : t'.Delivery := by
  have hne {stage : OfferStage} (ho : o.stage = stage) (hstage : stage ≠ .entered) : o.stage ≠ .entered :=
    ho ▸ hstage
  cases hstep with
  | barred ho => exact h.advance hi (hne ho nofun) nofun
  | admitted ho => exact h.advance hi (hne ho nofun) nofun
  | shed ho => exact h.advance hi (hne ho nofun) nofun
  | cleared ho => exact h.advance hi (hne ho nofun) nofun
  | raised ho => exact (h.counts (q := t.queue.raise) rfl rfl).advance hi (hne ho nofun) nofun
  | entered ho hlistens =>
    refine ⟨h.channel_posted hlistens _, h.sent_posted _, h.handed,
      h.nodup_posted (h.not_sent hi (hne ho nofun) _), fun j bytes => ?_, h.flag, ?_, h.returned⟩
    · rw [entered_advance (t := t.posted (.record i o.record)) hi (hne ho nofun)]
      refine List.mem_append.trans (or_congr (h.entered j bytes) ?_)
      rw [List.mem_singleton, Letter.record.injEq]
      exact ⟨fun hb => ⟨rfl, hb.1, hb.2.symm⟩, fun hb => ⟨hb.2.1, hb.2.2.symm⟩⟩
    · exact List.mem_append.trans (Iff.trans (or_iff_left (by simp)) h.stop)
  | refused ho => exact h.advance hi (hne ho nofun) nofun
  | lowered ho => exact (h.counts (q := t.queue.lower) rfl rfl).advance hi (hne ho nofun) nofun
  | counted ho => exact (h.counts (q := t.queue.shed) rfl rfl).advance hi (hne ho nofun) nofun

/-- **The writer's step.** What it takes from the channel is in its hand, and what it is done with is with the
file. -/
theorem works (h : t.Delivery) (hstep : t.Works t') : t'.Delivery := by
  have hchannel := h.channel
  have hsent := h.sent
  -- no stop has returned while the writer has something to do
  have hgoing : t.stopper ≠ .returned := fun hr => by
    have hended := h.returned hr
    cases hstep <;> simp_all
  cases hstep with
  | takes hw hqueue hunread =>
    rw [hw, hunread, hqueue] at hchannel
    obtain ⟨rfl, rfl⟩ : _ ∧ _ := by simpa [WriterStage.listens, Letter.message] using hchannel
    exact { h with
      channel := rfl
      sent := by simpa [hw, hunread, WriterStage.inHand] using hsent
      returned := fun hr => absurd hr hgoing }
  | takesStop hw hqueue hunread =>
    rw [hw, hunread, hqueue] at hchannel
    obtain rfl : _ = _ := by simpa [WriterStage.listens, Letter.message] using hchannel
    exact { h with
      channel := rfl
      sent := by simpa [hw, hunread, WriterStage.inHand] using hsent
      returned := fun hr => absurd hr hgoing }
  | lowers hw =>
    exact { h with
      channel := by simpa [hw, WriterStage.listens, LogQueue.lower] using hchannel
      sent := by simpa [hw, WriterStage.inHand] using hsent
      returned := fun hr => absurd hr hgoing }
  | writes hw hwrite =>
    exact { h with
      handed := by simpa using h.handed
      channel := by simpa [hw, WriterStage.listens] using hchannel
      sent := by simpa [hw, WriterStage.inHand] using hsent
      returned := fun hr => absurd hr hgoing }
  | leaves hw =>
    exact { h with
      channel := rfl
      sent := by simpa [hw, WriterStage.inHand] using hsent
      returned := fun hr => absurd hr hgoing }
  | flushes hw hflush =>
    exact { h with
      channel := by simpa [hw, WriterStage.listens] using hchannel
      sent := by simpa [hw, WriterStage.inHand] using hsent
      returned := fun _ => rfl }

/-- **The stopper's step.** -/
theorem halts (h : t.Delivery) (hstep : t.Halts t') : t'.Delivery := by
  cases hstep with
  | flags hs =>
    exact { h with
      flag := iff_of_true rfl nofun
      stop := h.stop.trans (by simp [hs])
      returned := nofun }
  | sends hs hlistens =>
    have hnew : Letter.stop ∉ t.sent := by
      rw [h.stop, hs]
      simp
    exact {
      channel := h.channel_posted hlistens .stop
      sent := h.sent_posted .stop
      handed := h.handed
      nodup := h.nodup_posted hnew
      entered := fun i bytes => List.mem_append.trans ((or_iff_left (by simp)).trans (h.entered i bytes))
      flag := h.flag.trans (by simp [hs])
      stop := iff_of_true (List.mem_append_right _ List.mem_cons_self) (Or.inl rfl)
      returned := nofun }
  | returns hs hw =>
    exact { h with
      flag := h.flag.trans (by simp [hs])
      stop := h.stop.trans (by simp [hs])
      returned := fun _ => hw }

/-- **No step loses sight of a message.** -/
theorem step (h : t.Delivery) (hstep : t.step x = some t') : t'.Delivery := by
  cases x with
  | offer severity record =>
    cases hstep
    exact { h with entered := fun i bytes => (h.entered i bytes).trans (entered_offer severity record).symm }
  | proceed i =>
    obtain ⟨o, hi, hproceed⟩ := Option.bind_eq_some_iff.1 hstep
    exact h.proceeds hi (proceed_cases hproceed)
  | work => exact h.works (work_cases hstep)
  | halt => exact h.halts (halt_cases hstep)

/-- At the start there is nothing. -/
theorem of_start : (start queueSize discardThreshold f m).Delivery where
  channel := rfl
  sent := rfl
  handed := List.not_mem_nil
  nodup := List.nodup_nil
  entered := fun i bytes => by simp [start, Entered]
  flag := by simp [start, LogQueue.ofSettings]
  stop := by simp [start]
  returned := nofun

end Delivery

/-! ### What the counts say -/

/-- One offer among many comes to another stage. -/
theorem countP_advance (p : Offer → Bool) (hi : t.offers[i]? = some o) (stage : OfferStage) :
    (t.advance i o stage).offers.countP p + (p o).toNat =
      t.offers.countP p + (p (o.withStage stage)).toNat :=
  countP_set_add p hi (o.withStage stage)

namespace Tally

/-- An offer goes on, after something happened to the queue. -/
theorem advance (h : t.Tally) (hi : t.offers[i]? = some o) {stage : OfferStage} (hoffers : t₁.offers = t.offers)
    (hdropped : t₁.queue.dropped + o.isCounted.toNat = t.queue.dropped + (o.withStage stage).isCounted.toNat)
    (hdepth : t₁.queue.depth + t.underway + o.isAhead.toNat =
      t.queue.depth + t₁.underway + (o.withStage stage).isAhead.toNat) :
    (t₁.advance i o stage).Tally := by
  have hcounted := countP_advance Offer.isCounted (hoffers ▸ hi) stage
  have hahead := countP_advance Offer.isAhead (hoffers ▸ hi) stage
  rw [hoffers] at hcounted hahead
  have hd := h.dropped
  have hdep := h.depth
  constructor
  · show t₁.queue.dropped = (t₁.advance i o stage).offers.countP Offer.isCounted
    omega
  · show t₁.queue.depth = t₁.underway + (t₁.advance i o stage).offers.countP Offer.isAhead
    omega

/-- While a record is ahead, the counter is not zero. -/
theorem depth_pos (h : t.Tally) (hi : t.offers[i]? = some o) (ho : o.isAhead = true) : 0 < t.queue.depth := by
  have hpos : 0 < t.offers.countP Offer.isAhead := List.countP_pos_iff.2 ⟨o, List.mem_of_getElem? hi, ho⟩
  rw [h.depth]
  omega

/-- **A producer's step.** -/
theorem proceeds (h : t.Tally) (hi : t.offers[i]? = some o) (hstep : t.Proceeds i o t') : t'.Tally := by
  cases hstep with
  | barred ho => exact h.advance hi rfl (by simp [Offer.isCounted, ho]) (by simp [Offer.isAhead, ho])
  | admitted ho => exact h.advance hi rfl (by simp [Offer.isCounted, ho]) (by simp [Offer.isAhead, ho])
  | shed ho => exact h.advance hi rfl (by simp [Offer.isCounted, ho]) (by simp [Offer.isAhead, ho])
  | cleared ho => exact h.advance hi rfl (by simp [Offer.isCounted, ho]) (by simp [Offer.isAhead, ho])
  | raised ho =>
    refine h.advance hi rfl (by simp [Offer.isCounted, ho, LogQueue.raise]) ?_
    show t.queue.depth + 1 + t.underway + _ = t.queue.depth + t.underway + _
    simp [Offer.isAhead, ho]
    omega
  | entered ho =>
    -- what was ahead is under way now
    have hunderway : (t.posted (.record i o.record)).underway = t.underway + 1 := by
      simp [underway, posted, Letter.bytes?, Nat.add_right_comm]
    refine h.advance hi rfl (by simp [Offer.isCounted, ho, posted]) ?_
    rw [hunderway]
    simp [Offer.isAhead, ho, posted, Nat.add_assoc]
  | refused ho => exact h.advance hi rfl (by simp [Offer.isCounted, ho]) (by simp [Offer.isAhead, ho])
  | lowered ho =>
    have hpos := h.depth_pos hi (by simp [Offer.isAhead, ho])
    refine h.advance hi rfl (by simp [Offer.isCounted, ho, LogQueue.lower]) ?_
    show t.queue.depth - 1 + t.underway + _ = t.queue.depth + t.underway + _
    simp [Offer.isAhead, ho]
    omega
  | counted ho =>
    exact h.advance hi rfl (by simp [Offer.isCounted, ho, LogQueue.shed])
      (by simp [Offer.isAhead, ho, LogQueue.shed, underway])

/-- **The writer's step.** -/
theorem works (h : t.Tally) (hstep : t.Works t') : t'.Tally := by
  have hdepth := h.depth
  refine ⟨?_, ?_⟩
  · cases hstep <;> exact h.dropped
  unfold underway at hdepth ⊢
  cases hstep with
  | takes hw hqueue hunread =>
    simp [hw, hunread, WriterStage.behind, Letter.bytes?] at hdepth ⊢
    omega
  | takesStop hw hqueue hunread =>
    simpa [hw, hunread, WriterStage.behind, Letter.bytes?] using hdepth
  | lowers hw =>
    simp [hw, WriterStage.behind, LogQueue.lower] at hdepth ⊢
    omega
  | writes hw => simpa [hw, WriterStage.behind] using hdepth
  | leaves hw => simpa [hw, WriterStage.behind] using hdepth
  | flushes hw => simpa [hw, WriterStage.behind] using hdepth

/-- **The stopper's step.** -/
theorem halts (h : t.Tally) (hstep : t.Halts t') : t'.Tally := by
  refine ⟨?_, ?_⟩
  · cases hstep <;> exact h.dropped
  cases hstep with
  | flags => exact h.depth
  | sends => simpa [underway, posted, Letter.bytes?] using h.depth
  | returns => exact h.depth

/-- **No step miscounts.** -/
theorem step (h : t.Tally) (hstep : t.step x = some t') : t'.Tally := by
  cases x with
  | offer severity record =>
    cases hstep
    constructor
    · simpa [Offer.isCounted] using h.dropped
    · simpa [Offer.isAhead, underway] using h.depth
  | proceed i =>
    obtain ⟨o, hi, hproceed⟩ := Option.bind_eq_some_iff.1 hstep
    exact h.proceeds hi (proceed_cases hproceed)
  | work => exact h.works (work_cases hstep)
  | halt => exact h.halts (halt_cases hstep)

/-- At the start nothing is counted. -/
theorem of_start : (start queueSize discardThreshold f m).Tally :=
  ⟨rfl, rfl⟩

end Tally

/-! ### What the file got -/

/-- **The file got what was handed to it**, in this order, and was flushed when the writer ended. -/
def Written (t : Traffic) (f : RollingFile) (m : Machine) : Prop :=
  let got := LogQueue.writeAll (t.handed.filterMap Letter.bytes?) f m
  (t.file, t.machine) = if t.writer = .ended then LogQueue.flushFile got.1 got.2 else got

namespace Written

/-- Only the writer touches the file. -/
theorem congr (h : t.Written f m) (hfile : t'.file = t.file) (hmachine : t'.machine = t.machine)
    (hhanded : t'.handed = t.handed) (hwriter : t'.writer = .ended ↔ t.writer = .ended) : t'.Written f m := by
  unfold Written
  simp only [hfile, hmachine, hhanded, hwriter]
  exact h

/-- **The writer's step.** -/
theorem works (h : t.Written f m) (hstep : t.Works t') : t'.Written f m := by
  cases hstep with
  | takes hw => exact h.congr rfl rfl rfl (by simp [hw])
  | takesStop hw => exact h.congr rfl rfl rfl (by simp [hw])
  | lowers hw => exact h.congr rfl rfl rfl (by simp [hw])
  | writes hw hwrite =>
    unfold Written at h ⊢
    simp only [hw, reduceCtorEq, if_false] at h ⊢
    rw [List.filterMap_append, LogQueue.writeAll_append, ← h]
    show _ = LogQueue.writeAll [_] t.file t.machine
    rw [LogQueue.writeAll, hwrite]
    rfl
  | leaves hw => exact h.congr rfl rfl rfl (by simp [hw])
  | flushes hw hflush =>
    unfold Written at h ⊢
    simp only [hw, reduceCtorEq, if_false] at h
    simp only [if_true, ← h]
    exact hflush.symm

/-- At the start the file is as it was given. -/
theorem of_start : (start queueSize discardThreshold f m).Written f m :=
  rfl

/-- **No step but the writer's touches the file.** -/
theorem step (h : t.Written f m) (hstep : t.step x = some t') : t'.Written f m := by
  cases x with
  | offer severity record =>
    cases hstep
    exact h
  | proceed i =>
    obtain ⟨o, -, hproceed⟩ := Option.bind_eq_some_iff.1 hstep
    cases proceed_cases hproceed <;> exact h
  | work => exact h.works (work_cases hstep)
  | halt => cases halt_cases hstep <;> exact h

end Written

end Traffic

end ModuleHost
