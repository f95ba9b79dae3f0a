import Mathlib
import ModuleHost.Proofs.Logging.Settlement

/-!
# What is shed, and when

One producer and the writer share a queue that nobody stops. The producer decides by the counter whether a record
is shed to keep room, and sends it some steps later, while the writer empties the channel whenever it pleases. The
counter never lags behind the channel, and nobody else fills the channel, so the room that the counter promised is
there at that time.

* `Traffic.soloRun`: steps of one producer and the writer, in any order.
* `Traffic.Solo`: **what holds at any time**, and `Traffic.Solo.depth_eq`: what the counter is beside the channel.
* `Traffic.sheds_unimportant_first`: **unimportant records never take the last slots, and the others are shed only
  when there is no slot at all**.
-/

namespace ModuleHost

namespace Offer

/-- The record was found worth its slot, and is not in the channel yet. -/
def isCleared (o : Offer) : Bool :=
  o.stage = .cleared || o.stage = .raised

/-- The record will not come into the channel any more. -/
def isGivenUp (o : Offer) : Bool :=
  o.stage = .refused || o.stage = .shedding || o.stage = .counted

theorem isDone_eq_false_of_isCleared {o : Offer} (h : o.isCleared = true) : o.isDone = false := by
  unfold isCleared at h
  unfold isDone
  cases hs : o.stage <;> simp [hs] at h ⊢

end Offer

namespace Traffic

/-- **What one producer and the writer do.** The producer offers a record when it is done with the one before. -/
def soloStep (t : Traffic) (x : Move) : Option Traffic :=
  match x with
  | .offer _ _ => if t.offers.all Offer.isDone then t.step x else none
  | .proceed _ => t.step x
  | .work => t.step x
  | .halt => none

/-- **Steps of one producer and the writer**, one after another. -/
def soloRun (xs : List Move) (t : Traffic) : Option Traffic :=
  xs.foldlM soloStep t

/-- Somebody lowers the counter next: the writer for the record in its hand, or the producer for a refused one. -/
def IsLowering (t : Traffic) : Prop :=
  (∃ i bytes, t.writer = .holding i bytes) ∨ ∃ o ∈ t.offers, o.stage = .refused

/-- **What holds at any time** while one producer and the writer are at work. A record that was found worth its
slot still finds the room that it has to leave. -/
structure Solo (queueSize discardThreshold : Nat) (t : Traffic) : Prop where
  delivery : t.Delivery
  tally : t.Tally
  capacity : t.queue.capacity = queueSize
  threshold : t.queue.discardThreshold = discardThreshold
  going : t.stopper = .idle
  within : t.queue.channel.length ≤ queueSize
  one : ∀ (i j : Nat) (o o' : Offer), t.offers[i]? = some o → t.offers[j]? = some o' → o.isDone = false →
    o'.isDone = false → i = j
  room : ∀ (i : Nat) (o : Offer), t.offers[i]? = some o → o.isCleared = true → o.severity.isDiscardable = true →
    discardThreshold ≤ queueSize - t.queue.channel.length

variable {t t' u : Traffic} {i j : Nat} {o o' : Offer} {x : Move} {xs : List Move} {f : RollingFile} {m : Machine}
  {queueSize discardThreshold : Nat}

/-! ### The counter beside the channel -/

/-- A step of the one producer or of the writer is a step. -/
theorem step_of_soloStep (h : t.soloStep x = some t') : t.step x = some t' := by
  cases x with
  | offer severity record =>
    unfold soloStep at h
    simp only at h
    split at h
    · exact h
    · cases h
  | proceed i => exact h
  | work => exact h
  | halt => cases h

/-- Where nobody stops the queue the writer listens, and only records are in the channel. -/
theorem Delivery.unstopped (h : t.Delivery) (hs : t.stopper = .idle) :
    t.writer.listens = true ∧ .stop ∉ t.unread := by
  have hnot : Letter.stop ∉ t.sent := by
    rw [h.stop, hs]
    simp
  rw [h.sent, List.mem_append, List.mem_append, not_or, not_or] at hnot
  obtain ⟨⟨-, hhand⟩, hunread⟩ := hnot
  refine ⟨?_, hunread⟩
  cases hw : t.writer <;> simp [hw, WriterStage.inHand, WriterStage.listens] at hhand ⊢

/-- Letters that are no stop message are records. -/
theorem countP_records {ls : List Letter} (h : .stop ∉ ls) : ls.countP (fun l => l.bytes?.isSome) = ls.length := by
  refine List.countP_eq_length.2 fun l hl => ?_
  cases l with
  | record i bytes => rfl
  | stop => exact absurd hl h

namespace Solo

/-- **The counter is the length of the channel**, but for a record in the writer's hand and one that the producer
is about to send or to give up. -/
theorem depth_eq (h : t.Solo queueSize discardThreshold) :
    t.queue.depth = t.queue.channel.length + t.writer.behind + t.offers.countP Offer.isAhead := by
  obtain ⟨hlistens, hunread⟩ := h.delivery.unstopped h.going
  have hlength : t.queue.channel.length = t.unread.length := by
    rw [h.delivery.channel, if_pos hlistens, List.length_map]
  have hdepth := h.tally.depth
  rw [underway, countP_records hunread] at hdepth
  omega

theorem length_le_depth (h : t.Solo queueSize discardThreshold) : t.queue.channel.length ≤ t.queue.depth := by
  have hdepth := h.depth_eq
  omega

/-- **Who is about to lower the counter finds it above zero.** -/
theorem depth_pos (h : t.Solo queueSize discardThreshold) (hlowering : t.IsLowering) : 0 < t.queue.depth := by
  have hdepth := h.depth_eq
  rcases hlowering with ⟨i, bytes, hw⟩ | ⟨o, ho, hstage⟩
  · have hbehind : t.writer.behind = 1 := by
      rw [hw]
      rfl
    omega
  · have hahead : 0 < t.offers.countP Offer.isAhead :=
      List.countP_pos_iff.2 ⟨o, ho, by simp [Offer.isAhead, hstage]⟩
    omega

/-! ### Room for a record -/

/-- **A record that need not be shed leaves enough room**: the channel is no longer than the counter says. -/
theorem room_of_cleared (h : t.Solo queueSize discardThreshold) (hshed : t.queue.mustShed o.severity = false)
    (hlow : o.severity.isDiscardable = true) : discardThreshold ≤ queueSize - t.queue.channel.length := by
  have hfree : ¬ t.queue.free < t.queue.discardThreshold := by
    intro hlt
    simp [LogQueue.mustShed, hlt, hlow] at hshed
  unfold LogQueue.free at hfree
  rw [h.capacity, h.threshold] at hfree
  have hdepth := h.length_le_depth
  omega

/-- The offers after one of them came to a stage. -/
theorem getElem?_advance (hi : t.offers[i]? = some o) {stage : OfferStage}
    (hj : (t.advance i o stage).offers[j]? = some o') :
    j = i ∧ o' = o.withStage stage ∨ j ≠ i ∧ t.offers[j]? = some o' := by
  by_cases hij : j = i
  · subst hij
    rw [advance_getElem? hi] at hj
    exact Or.inl ⟨rfl, (Option.some.inj hj).symm⟩
  · refine Or.inr ⟨hij, ?_⟩
    rw [← hj]
    exact (List.getElem?_set_ne (Ne.symm hij)).symm

/-- **The offer that goes on** is still the only one that is not done, and takes nobody's room, if it has its own
at the next stage. -/
theorem advance (h : t.Solo queueSize discardThreshold) (hi : t.offers[i]? = some o) (hgoing : o.isDone = false)
    {stage : OfferStage} (hoffers : u.offers = t.offers) (hcapacity : u.queue.capacity = t.queue.capacity)
    (hthreshold : u.queue.discardThreshold = t.queue.discardThreshold) (hstopper : u.stopper = t.stopper)
    (hwithin : u.queue.channel.length ≤ queueSize)
    (hdelivery : (u.advance i o stage).Delivery) (htally : (u.advance i o stage).Tally)
    (hroom : (o.withStage stage).isCleared = true → o.severity.isDiscardable = true →
      discardThreshold ≤ queueSize - u.queue.channel.length) :
    (u.advance i o stage).Solo queueSize discardThreshold := by
  have hu : u.offers[i]? = some o := by rw [hoffers, hi]
  -- any offer that is not done now was not done before
  have hat : ∀ (j : Nat) (o' : Offer), (u.advance i o stage).offers[j]? = some o' → o'.isDone = false → j = i := by
    intro j o' hj hopen
    rcases getElem?_advance hu hj with ⟨rfl, -⟩ | ⟨-, hold⟩
    · rfl
    · rw [hoffers] at hold
      exact h.one j i o' o hold hi hopen hgoing
  refine ⟨hdelivery, htally, hcapacity.trans h.capacity, hthreshold.trans h.threshold, hstopper.trans h.going,
    hwithin, ?_, ?_⟩
  · intro j k o₁ o₂ hj hk hj' hk'
    rw [hat j o₁ hj hj', hat k o₂ hk hk']
  · intro j o' hj hcleared hlow
    obtain rfl := hat j o' hj (Offer.isDone_eq_false_of_isCleared hcleared)
    obtain rfl : o' = o.withStage stage := by
      rw [advance_getElem? hu] at hj
      exact (Option.some.inj hj).symm
    exact hroom hcleared hlow

/-! ### Steps -/

/-- **The producer's step.** -/
theorem proceeds (h : t.Solo queueSize discardThreshold) (hi : t.offers[i]? = some o) (hstep : t.Proceeds i o t') :
    t'.Solo queueSize discardThreshold := by
  have hgoing : o.isDone = false := by
    unfold Offer.isDone
    cases hstep <;> simp [*]
  have hdelivery := h.delivery.proceeds hi hstep
  have htally := h.tally.proceeds hi hstep
  cases hstep with
  | barred => exact h.advance hi hgoing rfl rfl rfl rfl h.within hdelivery htally nofun
  | admitted => exact h.advance hi hgoing rfl rfl rfl rfl h.within hdelivery htally nofun
  | shed => exact h.advance hi hgoing rfl rfl rfl rfl h.within hdelivery htally nofun
  | cleared ho hq => exact h.advance hi hgoing rfl rfl rfl rfl h.within hdelivery htally fun _ =>
    h.room_of_cleared hq
  | raised ho =>
    have hcleared : o.isCleared = true := by simp [Offer.isCleared, ho]
    refine h.advance (u := { t with queue := t.queue.raise }) hi hgoing rfl rfl rfl rfl h.within
      hdelivery htally ?_
    exact fun _ => h.room i o hi hcleared
  | entered _ _ hroom =>
    have hwithin : (t.posted (.record i o.record)).queue.channel.length ≤ queueSize := by
      have hcapacity := h.capacity
      show (t.queue.channel ++ [_]).length ≤ queueSize
      rw [List.length_append, List.length_singleton]
      omega
    exact h.advance hi hgoing rfl rfl rfl rfl hwithin hdelivery htally nofun
  | refused => exact h.advance hi hgoing rfl rfl rfl rfl h.within hdelivery htally nofun
  | lowered =>
    exact h.advance (u := { t with queue := t.queue.lower }) hi hgoing rfl rfl rfl rfl h.within
      hdelivery htally nofun
  | counted =>
    exact h.advance (u := { t with queue := t.queue.shed }) hi hgoing rfl rfl rfl rfl h.within
      hdelivery htally nofun

/-- **The writer's step** makes room and never takes any. -/
theorem works (h : t.Solo queueSize discardThreshold) (hstep : t.Works t') :
    t'.Solo queueSize discardThreshold := by
  have hdelivery := h.delivery.works hstep
  have htally := h.tally.works hstep
  have hshorter : t'.queue.channel.length ≤ t.queue.channel.length ∧ t'.offers = t.offers ∧
      t'.queue.capacity = t.queue.capacity ∧ t'.queue.discardThreshold = t.queue.discardThreshold ∧
      t'.stopper = t.stopper := by
    cases hstep with
    | takes _ hchannel => exact ⟨by simp [hchannel], rfl, rfl, rfl, rfl⟩
    | takesStop _ hchannel => exact ⟨by simp [hchannel], rfl, rfl, rfl, rfl⟩
    | lowers => exact ⟨le_rfl, rfl, rfl, rfl, rfl⟩
    | writes => exact ⟨le_rfl, rfl, rfl, rfl, rfl⟩
    | leaves => exact ⟨Nat.zero_le _, rfl, rfl, rfl, rfl⟩
    | flushes => exact ⟨le_rfl, rfl, rfl, rfl, rfl⟩
  obtain ⟨hlength, hoffers, hcapacity, hthreshold, hstopper⟩ := hshorter
  refine ⟨hdelivery, htally, hcapacity.trans h.capacity, hthreshold.trans h.threshold, hstopper.trans h.going,
    hlength.trans h.within, ?_, ?_⟩
  · rw [hoffers]
    exact h.one
  · intro i o hi hcleared hlow
    have hroom := h.room i o (hoffers ▸ hi) hcleared hlow
    omega

/-- **A new offer**, when all before it are done. -/
theorem offers (h : t.Solo queueSize discardThreshold) (hdone : ∀ o ∈ t.offers, o.isDone = true)
    (severity : Severity) (record : Bytes) (hstep : t.step (.offer severity record) = some t') :
    t'.Solo queueSize discardThreshold := by
  have hdelivery := h.delivery.step hstep
  have htally := h.tally.step hstep
  cases hstep
  -- an offer that is not done is the new one
  have hlast : ∀ i o, (t.offers ++ [Offer.mk severity record .begun])[i]? = some o → o.isDone = false →
      i = t.offers.length ∧ o = ⟨severity, record, .begun⟩ := by
    intro i o hi hopen
    rw [List.getElem?_append] at hi
    split at hi
    · have hd := hdone o (List.mem_of_getElem? hi)
      rw [hopen] at hd
      cases hd
    · rw [List.getElem?_singleton] at hi
      split at hi
      · exact ⟨by omega, (Option.some.inj hi).symm⟩
      · cases hi
  refine ⟨hdelivery, htally, h.capacity, h.threshold, h.going, h.within, ?_, ?_⟩
  · intro i j o o' hi hj hopen hopen'
    rw [(hlast i o hi hopen).1, (hlast j o' hj hopen').1]
  · intro i o hi hcleared
    obtain ⟨-, rfl⟩ := hlast i o hi (Offer.isDone_eq_false_of_isCleared hcleared)
    cases hcleared

/-- **Whoever goes on**, the next state is as good as this one. -/
theorem step (h : t.Solo queueSize discardThreshold) (hstep : t.soloStep x = some t') :
    t'.Solo queueSize discardThreshold := by
  have hplain := step_of_soloStep hstep
  cases x with
  | offer severity record =>
    have hdone : ∀ o ∈ t.offers, o.isDone = true := by
      unfold soloStep at hstep
      simp only at hstep
      split at hstep
      · rename_i hall
        exact List.all_eq_true.1 hall
      · cases hstep
    exact h.offers hdone severity record hplain
  | proceed i =>
    obtain ⟨o, hi, hproceed⟩ := Option.bind_eq_some_iff.1 hplain
    exact h.proceeds hi (proceed_cases hproceed)
  | work => exact h.works (work_cases hplain)
  | halt => cases hstep

/-- At the start nobody has offered anything. -/
theorem of_start (hsize : 1 ≤ queueSize) :
    (start queueSize discardThreshold f m).Solo queueSize discardThreshold where
  delivery := .of_start
  tally := .of_start
  capacity := Nat.max_eq_left hsize
  threshold := rfl
  going := rfl
  within := Nat.zero_le _
  one := by
    intro i j o o' hi
    cases hi
  room := by
    intro i o hi
    cases hi

theorem of_run (hsize : 1 ≤ queueSize) (h : soloRun xs (start queueSize discardThreshold f m) = some t) :
    t.Solo queueSize discardThreshold :=
  foldlM_keeps (fun _ _ _ => Solo.step) h (of_start hsize)

end Solo

/-! ### What becomes of a record in one step -/

/-- Only its producer takes an offer to another stage. -/
theorem proceeds_of_ne (h : t.step x = some t') (hi : t.offers[i]? = some o) (hi' : t'.offers[i]? = some o')
    (hne : o'.stage ≠ o.stage) : t.Proceeds i o t' := by
  cases x with
  | offer severity record =>
    cases h
    obtain ⟨hlt, -⟩ := List.getElem?_eq_some_iff.1 hi
    rw [List.getElem?_append_left hlt, hi] at hi'
    cases hi'
    exact absurd rfl hne
  | proceed j =>
    obtain ⟨o₁, hj, hproceed⟩ := Option.bind_eq_some_iff.1 h
    have hproceeds := proceed_cases hproceed
    have hsame : j = i := by
      by_contra hji
      have hold : t'.offers[i]? = t.offers[i]? := by
        cases hproceeds <;> exact List.getElem?_set_ne hji
      rw [hold, hi] at hi'
      cases hi'
      exact hne rfl
    subst hsame
    rw [hi] at hj
    cases hj
    exact hproceeds
  | work =>
    have hoffers : t'.offers = t.offers := by
      cases work_cases h <;> rfl
    rw [hoffers, hi] at hi'
    cases hi'
    exact absurd rfl hne
  | halt =>
    have hoffers : t'.offers = t.offers := by
      cases halt_cases h <;> rfl
    rw [hoffers, hi] at hi'
    cases hi'
    exact absurd rfl hne

/-- **A record is queued** only where it leaves enough room, if it is one that may be shed. -/
theorem Solo.room_of_entered (h : t.Solo queueSize discardThreshold) (hi : t.offers[i]? = some o)
    (hi' : t'.offers[i]? = some o') (hstep : t.Proceeds i o t') (hentered : o'.stage = .entered)
    (hlow : o.severity.isDiscardable = true) : discardThreshold ≤ queueSize - t.queue.channel.length := by
  cases hstep with
  | entered ho => exact h.room i o hi (by simp [Offer.isCleared, ho]) hlow
  | barred | admitted | shed | cleared | raised | refused | lowered | counted =>
    have hstage : o' = o.withStage _ := Option.some.inj (hi'.symm.trans (advance_getElem? hi _))
    rw [hstage] at hentered
    cases hentered

/-- **A record that must not be shed is given up** only where the channel is full. -/
theorem Solo.full_of_givenUp (h : t.Solo queueSize discardThreshold) (hi : t.offers[i]? = some o)
    (hi' : t'.offers[i]? = some o') (hstep : t.Proceeds i o t') (hgoing : o.isGivenUp = false)
    (hgivenUp : o'.isGivenUp = true) (hhigh : o.severity.isDiscardable = false) :
    t.queue.channel.length = queueSize := by
  obtain ⟨hlistens, -⟩ := h.delivery.unstopped h.going
  cases hstep with
  | barred _ hq =>
    -- nobody has stopped the queue
    have hstopped := h.delivery.flag.1 hq
    exact absurd h.going hstopped
  | shed _ hq =>
    rw [LogQueue.mustShed, hhigh, Bool.and_false] at hq
    cases hq
  | refused _ hpost =>
    have hfull : ¬ t.queue.channel.length < t.queue.capacity := by
      intro hroom
      rw [post?_eq_some_iff.2 ⟨hlistens, hroom, rfl⟩] at hpost
      cases hpost
    have hcapacity := h.capacity
    have hwithin := h.within
    omega
  | lowered ho => simp [Offer.isGivenUp, ho] at hgoing
  | counted ho => simp [Offer.isGivenUp, ho] at hgoing
  | admitted | cleared | raised | entered =>
    have hstage : o' = o.withStage _ := Option.some.inj (hi'.symm.trans (advance_getElem? hi _))
    rw [hstage] at hgivenUp
    cases hgivenUp

/-- **Unimportant records never take the last slots, and the others are shed only when there is none.** One
producer and the writer take their steps in any order, and nobody stops the queue. Then the counter is never below
the length of the channel, and whoever is about to lower it finds it above zero. A step that brings a record into
the channel finds at least as many slots free as the threshold asks for, if the record is one that may be shed; a
step that gives a record up finds no slot free, if it is not. -/
theorem sheds_unimportant_first (hsize : 1 ≤ queueSize)
    (h : soloRun xs (start queueSize discardThreshold f m) = some t) :
    t.queue.channel.length ≤ t.queue.depth ∧ (t.IsLowering → 0 < t.queue.depth) ∧
    ∀ x t', t.soloStep x = some t' → ∀ (i : Nat) (o o' : Offer), t.offers[i]? = some o → t'.offers[i]? = some o' →
      (o.severity.isDiscardable = true → o.stage ≠ .entered → o'.stage = .entered →
        discardThreshold ≤ queueSize - t.queue.channel.length) ∧
      (o.severity.isDiscardable = false → o.isGivenUp = false → o'.isGivenUp = true →
        t.queue.channel.length = queueSize) := by
  have hsolo : t.Solo queueSize discardThreshold := .of_run hsize h
  refine ⟨hsolo.length_le_depth, hsolo.depth_pos, ?_⟩
  intro x t' hstep i o o' hi hi'
  have hplain := step_of_soloStep hstep
  constructor
  · intro hlow hout hentered
    have hne : o'.stage ≠ o.stage := by
      rw [hentered]
      exact Ne.symm hout
    exact hsolo.room_of_entered hi hi' (proceeds_of_ne hplain hi hi' hne) hentered hlow
  · intro hhigh hgoing hgivenUp
    have hne : o'.stage ≠ o.stage := by
      intro hsame
      rw [Offer.isGivenUp, hsame, ← Offer.isGivenUp, hgoing] at hgivenUp
      cases hgivenUp
    exact hsolo.full_of_givenUp hi hi' (proceeds_of_ne hplain hi hi' hne) hgoing hgivenUp hhigh

/-- Of two slots one is kept free. An unimportant record is queued while both are free; after it and another one
came into the channel, an important record is given up. -/
theorem sheds_unimportant_first_two_slots :
    let alone : List Move := [.offer .info [1], .proceed 0, .proceed 0, .proceed 0]
    let crowded : List Move :=
      alone ++ [.proceed 0, .offer .warn [2], .proceed 1, .proceed 1, .proceed 1, .proceed 1,
      .offer .error [3], .proceed 2, .proceed 2, .proceed 2]
    (∃ t t', soloRun alone (start 2 1 default default) = some t ∧ t.soloStep (.proceed 0) = some t' ∧
      t'.offers[0]? = some ⟨.info, [1], .entered⟩ ∧ 1 ≤ 2 - t.queue.channel.length) ∧
    ∃ t t', soloRun crowded (start 2 1 default default) = some t ∧ t.soloStep (.proceed 2) = some t' ∧
      t'.offers[2]? = some ⟨.error, [3], .refused⟩ ∧ t.queue.channel.length = 2 := by
  intro alone crowded
  let t : Traffic := { start 2 1 default default with
    queue := { capacity := 2, discardThreshold := 1, depth := 1 }
    offers := [⟨.info, [1], .raised⟩] }
  let u : Traffic := { start 2 1 default default with
    queue := { capacity := 2, discardThreshold := 1, depth := 3, channel := [.record [1], .record [2]] }
    offers := [⟨.info, [1], .entered⟩, ⟨.warn, [2], .entered⟩, ⟨.error, [3], .raised⟩]
    sent := [.record 0 [1], .record 1 [2]]
    unread := [.record 0 [1], .record 1 [2]] }
  have ht : soloRun alone (start 2 1 default default) = some t := rfl
  have hu : soloRun crowded (start 2 1 default default) = some u := rfl
  have hqueued := (sheds_unimportant_first (by decide) ht).2.2 (.proceed 0) _ rfl 0 ⟨.info, [1], .raised⟩
    ⟨.info, [1], .entered⟩ rfl rfl
  have hgivenUp := (sheds_unimportant_first (by decide) hu).2.2 (.proceed 2) _ rfl 2 ⟨.error, [3], .raised⟩
    ⟨.error, [3], .refused⟩ rfl rfl
  exact ⟨⟨t, _, ht, rfl, rfl, hqueued.1 rfl nofun rfl⟩, ⟨u, _, hu, rfl, rfl, hgivenUp.2 rfl rfl rfl⟩⟩

end Traffic

end ModuleHost
