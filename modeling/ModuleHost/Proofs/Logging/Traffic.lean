import Mathlib
import ModuleHost.Proofs.Logging.Lifespan

/-!
# The queue under traffic

Any number of producers, the writer and the one who stops it are at work on one queue at the same time, and each
takes its own steps whenever it pleases. A step is one access to what they share: the flag, the counter, the
channel, or the count of records that were shed.

* `Traffic`: the queue, how far everybody has come, and what was sent, taken and written so far.
* `Traffic.step`, `Traffic.run`: one step of one party, and any number of steps in any order.
* `Traffic.proceed_cases`, `Traffic.work_cases`, `Traffic.halt_cases`: **what a step does**, said once for each
  party.
-/

namespace ModuleHost

/-! ### The parties -/

/-- **How far the offer of a record has come.** -/
inductive OfferStage where
  | begun
  /-- The queue was not stopped. -/
  | admitted
  /-- The record need not be shed to keep room. -/
  | cleared
  /-- The counter was raised. -/
  | raised
  /-- The channel did not take the record. -/
  | refused
  /-- The record is to be counted as shed. -/
  | shedding
  /-- Done: the record is in the channel. -/
  | entered
  /-- Done: the record was counted as shed. -/
  | counted
  deriving DecidableEq

/-- **A record on offer.** -/
structure Offer where
  severity : Severity
  record : Bytes
  stage : OfferStage := .begun
  deriving DecidableEq

/-- The offer at another stage. -/
def Offer.withStage (o : Offer) (stage : OfferStage) : Offer :=
  { o with stage }

@[simp] theorem Offer.withStage_stage (o : Offer) (stage : OfferStage) : (o.withStage stage).stage = stage :=
  rfl

@[simp] theorem Offer.withStage_record (o : Offer) (stage : OfferStage) : (o.withStage stage).record = o.record :=
  rfl

/-- The offer is done. -/
def Offer.isDone (o : Offer) : Bool :=
  o.stage = .entered || o.stage = .counted

/-- The offer was let in, and has not met the channel yet. -/
def Offer.isHalfway (o : Offer) : Bool :=
  o.stage = .admitted || o.stage = .cleared || o.stage = .raised

/-- The counter stands for a record that is not in the channel. -/
def Offer.isAhead (o : Offer) : Bool :=
  o.stage = .raised || o.stage = .refused

/-- The record was counted as shed. -/
def Offer.isCounted (o : Offer) : Bool :=
  o.stage = .counted

/-- **A message with its sender**: the number of the offer that it comes from. -/
inductive Letter where
  | record (offer : Nat) (bytes : Bytes)
  | stop
  deriving DecidableEq

/-- What of a letter travels through the channel. -/
def Letter.message : Letter → QueueMessage
  | .record _ bytes => .record bytes
  | .stop => .stop

/-- The record in a letter. -/
def Letter.bytes? : Letter → Option Bytes
  | .record _ bytes => some bytes
  | .stop => none

/-- **How far the writer has come.** -/
inductive WriterStage where
  | waiting
  /-- It took a record, and the counter still stands for it. -/
  | holding (offer : Nat) (bytes : Bytes)
  /-- The counter was lowered, and the record goes to the file next. -/
  | writing (offer : Nat) (bytes : Bytes)
  /-- It took the stop message. -/
  | leaving
  /-- It let go of the channel, and the file is to be flushed. -/
  | flushing
  | ended
  deriving DecidableEq

namespace WriterStage

/-- Whether the channel has a reader. -/
def listens : WriterStage → Bool
  | .flushing => false
  | .ended => false
  | _ => true

/-- What was taken from the channel last, until it is done with. -/
def inHand : WriterStage → List Letter
  | .waiting => []
  | .holding i bytes => [.record i bytes]
  | .writing i bytes => [.record i bytes]
  | .leaving => [.stop]
  | .flushing => [.stop]
  | .ended => [.stop]

/-- The counter stands for a record that is not in the channel any more. -/
def behind : WriterStage → Nat
  | .holding _ _ => 1
  | _ => 0

end WriterStage

/-- **How far the one who stops the queue has come.** -/
inductive StopStage where
  | idle
  /-- The flag is set. -/
  | flagged
  /-- The stop message is in the channel, and the writer is waited for. -/
  | sent
  | returned
  deriving DecidableEq

/-- **A queue with all who are at work on it**, the file and the machine of the writer, and what was done so far:
the letters that were sent, those of them that were not taken from the channel, and those whose records were given
to the file. -/
structure Traffic where
  queue : LogQueue
  file : RollingFile
  machine : Machine
  offers : List Offer := []
  writer : WriterStage := .waiting
  stopper : StopStage := .idle
  sent : List Letter := []
  unread : List Letter := []
  handed : List Letter := []

/-- What somebody does next. -/
inductive Move where
  /-- A producer begins to offer a record. -/
  | offer (severity : Severity) (record : Bytes)
  /-- The producer of an offer goes on. -/
  | proceed (offer : Nat)
  | work
  | halt
  deriving DecidableEq

namespace LogQueue

/-- The writer flushes the file. -/
def flushFile (f : RollingFile) (m : Machine) : RollingFile × Machine :=
  match f.flush m.disk with
  | (r, f, disk) => (f, { m with disk }.complainIf "failed to flush log file" r)

end LogQueue

namespace Traffic

/-- A new queue, and nobody at work on it but the writer. -/
def start (queueSize discardThreshold : Nat) (f : RollingFile) (m : Machine) : Traffic where
  queue := .ofSettings queueSize discardThreshold
  file := f
  machine := m

/-- An offer comes to a stage. -/
def advance (t : Traffic) (i : Nat) (o : Offer) (stage : OfferStage) : Traffic :=
  { t with offers := t.offers.set i (o.withStage stage) }

/-- Send a letter, if somebody reads the channel and there is room in it. -/
def post? (t : Traffic) (l : Letter) : Option Traffic :=
  if t.writer.listens then
    (t.queue.send? l.message).map fun queue =>
      { t with queue, sent := t.sent ++ [l], unread := t.unread ++ [l] }
  else none

/-- **The next step of an offer.** -/
def proceed (t : Traffic) (i : Nat) (o : Offer) : Option Traffic :=
  match o.stage with
  | .begun => some (t.advance i o (if t.queue.stopped then .shedding else .admitted))
  | .admitted => some (t.advance i o (if t.queue.mustShed o.severity then .shedding else .cleared))
  | .cleared => some ({ t with queue := t.queue.raise }.advance i o .raised)
  | .raised =>
    match t.post? (.record i o.record) with
    | some t => some (t.advance i o .entered)
    | none => some (t.advance i o .refused)
  | .refused => some ({ t with queue := t.queue.lower }.advance i o .shedding)
  | .shedding => some ({ t with queue := t.queue.shed }.advance i o .counted)
  | .entered => none
  | .counted => none

/-- **The next step of the writer.** It waits if the channel is empty. -/
def work (t : Traffic) : Option Traffic :=
  match t.writer with
  | .waiting =>
    match t.queue.channel, t.unread with
    | .record bytes :: channel, .record i _ :: unread =>
      some { t with queue := { t.queue with channel }, unread, writer := .holding i bytes }
    | .stop :: channel, .stop :: unread =>
      some { t with queue := { t.queue with channel }, unread, writer := .leaving }
    | _, _ => none
  | .holding i bytes => some { t with queue := t.queue.lower, writer := .writing i bytes }
  | .writing i bytes =>
    match LogQueue.writeOne t.file bytes t.machine with
    | (file, machine) =>
      some { t with file, machine, writer := .waiting, handed := t.handed ++ [.record i bytes] }
  -- what is still in the channel goes with it
  | .leaving => some { t with queue := { t.queue with channel := [] }, writer := .flushing }
  | .flushing =>
    match LogQueue.flushFile t.file t.machine with
    | (file, machine) => some { t with file, machine, writer := .ended }
  | .ended => none

/-- **The next step of the one who stops the queue.** He waits for room in the channel, and then for the
writer. -/
def halt (t : Traffic) : Option Traffic :=
  match t.stopper with
  | .idle => some { t with queue := { t.queue with stopped := true }, stopper := .flagged }
  | .flagged => (t.post? .stop).map fun t => { t with stopper := .sent }
  | .sent => if t.writer = .ended then some { t with stopper := .returned } else none
  | .returned => none

/-- **One step**, if the party can take it. -/
def step (t : Traffic) : Move → Option Traffic
  | .offer severity record => some { t with offers := t.offers ++ [{ severity, record }] }
  | .proceed i => (t.offers[i]?).bind (t.proceed i)
  | .work => t.work
  | .halt => t.halt

/-- **Steps of anybody**, one after another. -/
def run : List Move → Traffic → Option Traffic
  | [], t => some t
  | x :: xs, t => (t.step x).bind (run xs)

variable {t t' t₁ t₂ : Traffic} {i : Nat} {o : Offer} {l : Letter} {xs ys : List Move} {x : Move}

/-! ### Runs -/

/-- **What every step keeps, every run keeps.** -/
theorem run_keeps {P : Traffic → Prop} (hstep : ∀ t, ∀ x ∈ xs, ∀ t', P t → t.step x = some t' → P t') (hP : P t)
    (h : run xs t = some t') : P t' := by
  induction xs generalizing t with
  | nil =>
    cases h
    exact hP
  | cons x xs ih =>
    obtain ⟨t₁, hx, hrest⟩ := Option.bind_eq_some_iff.1 h
    exact ih (fun t y hy => hstep t y (List.mem_cons_of_mem _ hy)) (hstep t x List.mem_cons_self t₁ hP hx) hrest

/-- One run after another. -/
theorem run_trans (h₁ : run xs t = some t₁) (h₂ : run ys t₁ = some t₂) : run (xs ++ ys) t = some t₂ := by
  induction xs generalizing t with
  | nil =>
    cases h₁
    exact h₂
  | cons x xs ih =>
    obtain ⟨t', hx, hrest⟩ := Option.bind_eq_some_iff.1 h₁
    rw [List.cons_append, run, hx]
    exact ih hrest

/-- A letter came into the channel. -/
def posted (t : Traffic) (l : Letter) : Traffic :=
  { t with
    queue := { t.queue with channel := t.queue.channel ++ [l.message] }
    sent := t.sent ++ [l]
    unread := t.unread ++ [l] }

/-- **A letter is sent** if somebody reads the channel and there is room in it. -/
theorem post?_eq_some_iff :
    t.post? l = some t' ↔
      t.writer.listens = true ∧ t.queue.channel.length < t.queue.capacity ∧ t' = t.posted l := by
  unfold post? LogQueue.send?
  constructor
  · intro h
    split at h
    · rename_i hlistens
      split at h
      · rename_i hroom
        cases h
        exact ⟨hlistens, hroom, rfl⟩
      · cases h
    · cases h
  · rintro ⟨hlistens, hroom, rfl⟩
    rw [if_pos hlistens, if_pos hroom]
    rfl

/-! ### What a step does -/

/-- **What a producer's step does.** -/
inductive Proceeds (t : Traffic) (i : Nat) (o : Offer) : Traffic → Prop
  | barred (ho : o.stage = .begun) (hq : t.queue.stopped = true) : t.Proceeds i o (t.advance i o .shedding)
  | admitted (ho : o.stage = .begun) (hq : t.queue.stopped = false) : t.Proceeds i o (t.advance i o .admitted)
  | shed (ho : o.stage = .admitted) (hq : t.queue.mustShed o.severity = true) :
    t.Proceeds i o (t.advance i o .shedding)
  | cleared (ho : o.stage = .admitted) (hq : t.queue.mustShed o.severity = false) :
    t.Proceeds i o (t.advance i o .cleared)
  | raised (ho : o.stage = .cleared) : t.Proceeds i o ({ t with queue := t.queue.raise }.advance i o .raised)
  | entered (ho : o.stage = .raised) (hlistens : t.writer.listens = true)
    (hroom : t.queue.channel.length < t.queue.capacity) :
    t.Proceeds i o ((t.posted (.record i o.record)).advance i o .entered)
  | refused (ho : o.stage = .raised) (hpost : t.post? (.record i o.record) = none) :
    t.Proceeds i o (t.advance i o .refused)
  | lowered (ho : o.stage = .refused) : t.Proceeds i o ({ t with queue := t.queue.lower }.advance i o .shedding)
  | counted (ho : o.stage = .shedding) : t.Proceeds i o ({ t with queue := t.queue.shed }.advance i o .counted)

/-- **What a step of the writer does.** -/
inductive Works (t : Traffic) : Traffic → Prop
  | takes {i : Nat} {bytes bytes' : Bytes} {channel : List QueueMessage} {unread : List Letter}
    (hw : t.writer = .waiting) (hchannel : t.queue.channel = .record bytes :: channel)
    (hunread : t.unread = .record i bytes' :: unread) :
    t.Works { t with queue := { t.queue with channel }, unread, writer := .holding i bytes }
  | takesStop {channel : List QueueMessage} {unread : List Letter} (hw : t.writer = .waiting)
    (hchannel : t.queue.channel = .stop :: channel) (hunread : t.unread = .stop :: unread) :
    t.Works { t with queue := { t.queue with channel }, unread, writer := .leaving }
  | lowers {i : Nat} {bytes : Bytes} (hw : t.writer = .holding i bytes) :
    t.Works { t with queue := t.queue.lower, writer := .writing i bytes }
  | writes {i : Nat} {bytes : Bytes} {f : RollingFile} {m : Machine} (hw : t.writer = .writing i bytes)
    (hwrite : LogQueue.writeOne t.file bytes t.machine = (f, m)) :
    t.Works { t with file := f, machine := m, writer := .waiting, handed := t.handed ++ [.record i bytes] }
  | leaves (hw : t.writer = .leaving) :
    t.Works { t with queue := { t.queue with channel := [] }, writer := .flushing }
  | flushes {f : RollingFile} {m : Machine} (hw : t.writer = .flushing)
    (hflush : LogQueue.flushFile t.file t.machine = (f, m)) :
    t.Works { t with file := f, machine := m, writer := .ended }

/-- **What a step of the one who stops the queue does.** -/
inductive Halts (t : Traffic) : Traffic → Prop
  | flags (hs : t.stopper = .idle) :
    t.Halts { t with queue := { t.queue with stopped := true }, stopper := .flagged }
  | sends (hs : t.stopper = .flagged) (hlistens : t.writer.listens = true)
    (hroom : t.queue.channel.length < t.queue.capacity) : t.Halts { t.posted .stop with stopper := .sent }
  | returns (hs : t.stopper = .sent) (hw : t.writer = .ended) : t.Halts { t with stopper := .returned }

theorem proceed_cases (h : t.proceed i o = some t') : t.Proceeds i o t' := by
  unfold proceed at h
  cases ho : o.stage with
  | begun =>
    simp only [ho] at h
    cases h
    split
    · rename_i hq
      exact .barred ho hq
    · rename_i hq
      exact .admitted ho (Bool.not_eq_true _ ▸ hq)
  | admitted =>
    simp only [ho] at h
    cases h
    split
    · rename_i hq
      exact .shed ho hq
    · rename_i hq
      exact .cleared ho (Bool.not_eq_true _ ▸ hq)
  | cleared =>
    simp only [ho] at h
    cases h
    exact .raised ho
  | raised =>
    simp only [ho] at h
    cases hpost : t.post? (.record i o.record) with
    | some t₁ =>
      simp only [hpost] at h
      cases h
      obtain ⟨hlistens, hroom, rfl⟩ := post?_eq_some_iff.1 hpost
      exact .entered ho hlistens hroom
    | none =>
      simp only [hpost] at h
      cases h
      exact .refused ho hpost
  | refused =>
    simp only [ho] at h
    cases h
    exact .lowered ho
  | shedding =>
    simp only [ho] at h
    cases h
    exact .counted ho
  | entered => simp [ho] at h
  | counted => simp [ho] at h

theorem work_cases (h : t.work = some t') : t.Works t' := by
  unfold work at h
  cases hw : t.writer with
  | waiting =>
    simp only [hw] at h
    split at h
    · rename_i hchannel hunread
      cases h
      exact .takes hw hchannel hunread
    · rename_i hchannel hunread
      cases h
      exact .takesStop hw hchannel hunread
    · cases h
  | holding i bytes =>
    simp only [hw] at h
    cases h
    exact .lowers hw
  | writing i bytes =>
    simp only [hw] at h
    cases h
    exact .writes hw rfl
  | leaving =>
    simp only [hw] at h
    cases h
    exact .leaves hw
  | flushing =>
    simp only [hw] at h
    cases h
    exact .flushes hw rfl
  | ended => simp [hw] at h

theorem halt_cases (h : t.halt = some t') : t.Halts t' := by
  unfold halt at h
  cases hs : t.stopper with
  | idle =>
    simp only [hs] at h
    cases h
    exact .flags hs
  | flagged =>
    simp only [hs] at h
    obtain ⟨t₁, hpost, rfl⟩ := Option.map_eq_some_iff.1 h
    obtain ⟨hlistens, hroom, rfl⟩ := post?_eq_some_iff.1 hpost
    exact .sends hs hlistens hroom
  | sent =>
    simp only [hs] at h
    split at h
    · rename_i hw
      cases h
      exact .returns hs hw
    · cases h
  | returned => simp [hs] at h

end Traffic

end ModuleHost
