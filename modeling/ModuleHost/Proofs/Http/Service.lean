import Mathlib
import ModuleHost.Proofs.Http.Crowd
import ModuleHost.Proofs.Http.Verdict

/-!
# A pipeline in service

Requests arrive at a pipeline, those that wait inside come to their end one by one, and the gate may be closed at
any time.

* `Service`: the pipeline, and every visit with the verdict about it.
* `Service.step`, `Service.run`: one thing that happens, and any number of them in any order.
* `Service.Tallied`: **each counter is the number of visits that it let in and that are not finished**.
* `Service.Receives`: what becomes of a request that arrives now.
* `Service.rejections_run`: the counters of refusals grow by the numbers of visits that were refused.
* `Service.refines_verdicts`: with any gate and limiter, and at any time in service, a request meets the one
  verdict that the settings have about it.
-/

namespace ModuleHost.Http

/-- The answer does not wait. -/
def Reply.isAnswered : Reply → Bool
  | .answered _ => true
  | .held _ => false

/-- **A visit** of a request. -/
structure Visit where
  request : Request
  verdict : Verdict
  /-- It was answered, or nobody waits for the answer any more. -/
  finished : Bool

namespace Visit

/-- The gate let the visit in, and it is not finished. -/
def isInside (v : Visit) : Bool :=
  v.verdict != .refused .shutdown && !v.finished

/-- The gate and the limiter let the visit in, and it is not finished. -/
def holdsSlot (v : Visit) : Bool :=
  v.verdict != .refused .limit && v.isInside

/-- The visit comes to its end. -/
def ended (v : Visit) : Visit :=
  { v with finished := true }

theorem isInside_of_finished {v : Visit} (h : v.finished = true) : v.isInside = false := by
  simp [isInside, h]

theorem holdsSlot_of_finished {v : Visit} (h : v.finished = true) : v.holdsSlot = false := by
  simp [holdsSlot, isInside_of_finished h]

theorem isInside_of_passed {v : Visit} (h : v.verdict = .passed) (hwaits : v.finished = false) :
    v.isInside = true := by
  simp [isInside, h, hwaits]

theorem holdsSlot_of_passed {v : Visit} (h : v.verdict = .passed) (hwaits : v.finished = false) :
    v.holdsSlot = true := by
  simp [holdsSlot, isInside_of_passed h hwaits, h]

end Visit

/-- What happens to a pipeline in service. -/
inductive Happening where
  | arrives (r : Request)
  /-- A visit that waits comes to its end. -/
  | ends (visit : Nat)
  | closes

/-- **A pipeline in service**, and all the visits that it has seen. -/
structure Service where
  pipeline : Pipeline
  book : Logbook
  visits : List Visit := []

namespace Service

/-! ### What happens -/

/-- A request arrives. Its visit is finished at once, unless the answer waits. -/
def arrive (base : Base) (t : Service) (r : Request) : Service :=
  match t.pipeline.handleOver base r t.book with
  | (reply, pipeline, book) =>
    { pipeline, book, visits := t.visits ++ [⟨r, t.pipeline.judge r, reply.isAnswered⟩] }

/-- A visit comes to its end, if it is not finished. -/
def finish (t : Service) (i : Nat) : Service :=
  match t.visits[i]? with
  | none => t
  | some v =>
    if v.finished then t
    else
      match t.pipeline.finish t.book with
      | (pipeline, book) => { pipeline, book, visits := t.visits.set i v.ended }

/-- The gate is closed. -/
def close (t : Service) : Service :=
  match Pipeline.closeGate t.pipeline.gate t.book with
  | (gate, book) => { t with pipeline := { t.pipeline with gate }, book }

/-- **One thing happens.** -/
def step (base : Base) (t : Service) : Happening → Service
  | .arrives r => t.arrive base r
  | .ends i => t.finish i
  | .closes => t.close

/-- **Any number of things happen**, one after another. -/
def run (base : Base) (xs : List Happening) (t : Service) : Service :=
  xs.foldl (step base) t

/-- **What becomes of a request** that arrives now: there is one verdict about it, by whether the gate is closing
and how many slots are taken, and the pipeline does what it says. The visit is finished, unless the answer
waits. -/
def Receives (s : Settings) (mode : RunMode) (base : Base) (t : Service) (r : Request) : Prop :=
  ∃ v reply p b,
    (∀ v', Judged s t.pipeline.gate.closing t.pipeline.limiter.inFlight r v' ↔ v' = v) ∧
    t.pipeline.handleOver base r t.book = (reply, p, b) ∧
    Pipeline.Handled s mode base t.pipeline r t.book v reply p b ∧
    t.step base (.arrives r) = ⟨p, b, t.visits ++ [⟨r, v, reply.isAnswered⟩]⟩

/-- **Each counter is the number of visits** that it let in and that are not finished, and there are never more
slots taken than there are. -/
structure Tallied (s : Settings) (t : Service) : Prop where
  inside : t.pipeline.gate.inFlight = t.visits.countP Visit.isInside
  slots : t.pipeline.limiter.inFlight = t.visits.countP Visit.holdsSlot
  room : t.pipeline.limiter.inFlight ≤ s.pipeline.maxConcurrentRequests

/-- What holds of a pipeline in service at any time. -/
structure Orderly (s : Settings) (mode : RunMode) (t : Service) : Prop where
  setBy : t.pipeline.SetBy s mode
  tallied : t.Tallied s
  /-- Only who was passed on waits. -/
  passed : ∀ v ∈ t.visits, v.finished = false → v.verdict = .passed

variable {s : Settings} {mode : RunMode} {base : Base} {t : Service} {x : Happening} {r : Request}
  {v : Visit} {i : Nat}

/-! ### A request -/

theorem receives_of_setBy (h : t.pipeline.SetBy s mode) (base : Base) (r : Request) : t.Receives s mode base r :=
  ⟨t.pipeline.judge r, _, _, _, fun _ => h.judged_iff, rfl, h.handled base r t.book, rfl⟩

/-- A finished visit is added, and nobody else is there. -/
theorem Tallied.append_finished (h : t.Tallied s) (hv : v.finished = true) (b : Logbook) :
    Tallied s { t with book := b, visits := t.visits ++ [v] } where
  inside := by
    rw [List.countP_append, List.countP_singleton, Visit.isInside_of_finished hv]
    exact h.inside
  slots := by
    rw [List.countP_append, List.countP_singleton, Visit.holdsSlot_of_finished hv]
    exact h.slots
  room := h.room

/-- A visit that waits is added, and one more is counted by both. -/
theorem Tallied.append_waiting (h : t.Tallied s) (hv : v.verdict = .passed) (hwaits : v.finished = false)
    (hroom : t.pipeline.limiter.inFlight < s.pipeline.maxConcurrentRequests) (b : Logbook) :
    Tallied s ⟨t.pipeline.withOneMore, b, t.visits ++ [v]⟩ where
  inside := by
    rw [List.countP_append, List.countP_singleton, Visit.isInside_of_passed hv hwaits, ← h.inside]
    rfl
  slots := by
    rw [List.countP_append, List.countP_singleton, Visit.holdsSlot_of_passed hv hwaits, ← h.slots]
    rfl
  room := hroom

theorem Orderly.arrive (h : t.Orderly s mode) (base : Base) (r : Request) : (t.arrive base r).Orderly s mode := by
  obtain ⟨v, reply, p, b, hjudged, -, hhandled, hstep⟩ := receives_of_setBy h.setBy base r
  have harrive : t.arrive base r = _ := hstep
  rw [harrive]
  -- who was refused or led away is finished, so nothing is asked of those verdicts
  have hpassed (v : Visit) (hv : v.finished = false → v.verdict = .passed) :
      ∀ v' ∈ t.visits ++ [v], v'.finished = false → v'.verdict = .passed := by
    intro v' hv'
    rcases List.mem_append.1 hv' with hold | hnew
    · exact h.passed v' hold
    · rw [List.mem_singleton.1 hnew]
      exact hv
  cases hhandled with
  | byItself => exact ⟨h.setBy, h.tallied.append_finished rfl b, hpassed _ nofun⟩
  | answered => exact ⟨h.setBy, h.tallied.append_finished rfl b, hpassed _ nofun⟩
  | waits =>
    have hroom : t.pipeline.limiter.inFlight < s.pipeline.maxConcurrentRequests := by
      cases (hjudged .passed).2 rfl with
      | passed _ hroom => exact hroom
    exact ⟨⟨h.setBy.max, h.setBy.allowed, h.setBy.redirect, h.setBy.siteHeaders⟩,
      h.tallied.append_waiting rfl rfl hroom b, hpassed _ fun _ => rfl⟩

/-! ### An end -/

/-- A visit that waits comes to its end, and one less is counted by both. -/
theorem Tallied.leave (h : t.Tallied s) (hv : t.visits[i]? = some v) (hpassed : v.verdict = .passed)
    (hwaits : v.finished = false) :
    Tallied s ⟨(t.pipeline.finish t.book).1, (t.pipeline.finish t.book).2, t.visits.set i v.ended⟩ where
  inside := by
    have hcount := countP_set_add Visit.isInside hv v.ended
    rw [Visit.isInside_of_passed hpassed hwaits, Visit.isInside_of_finished (v := v.ended) rfl,
      ← h.inside] at hcount
    exact (Nat.eq_sub_of_add_eq hcount).symm
  slots := by
    have hcount := countP_set_add Visit.holdsSlot hv v.ended
    rw [Visit.holdsSlot_of_passed hpassed hwaits, Visit.holdsSlot_of_finished (v := v.ended) rfl,
      ← h.slots] at hcount
    exact (Nat.eq_sub_of_add_eq hcount).symm
  room := (Nat.sub_le _ 1).trans h.room

theorem Orderly.finish (h : t.Orderly s mode) (i : Nat) : (t.finish i).Orderly s mode := by
  unfold Service.finish
  split
  · exact h
  rename_i v hv
  split
  · exact h
  rename_i hwaits
  have hwaits := eq_false_of_ne_true hwaits
  have hpassed := h.passed v (List.mem_of_getElem? hv) hwaits
  refine ⟨⟨h.setBy.max, h.setBy.allowed, h.setBy.redirect, h.setBy.siteHeaders⟩,
    h.tallied.leave hv hpassed hwaits, ?_⟩
  intro v' hv' hwaits'
  rcases List.mem_or_eq_of_mem_set hv' with hold | rfl
  · exact h.passed v' hold hwaits'
  · cases hwaits'

/-! ### The gate is closed -/

/-- Whoever closes the gate, and however often, leaves all the rest as it was. -/
theorem closeGate_fst (g : Gate) (b : Logbook) : (Pipeline.closeGate g b).1 = { g with closing := true } := by
  obtain ⟨n, closing⟩ := g
  cases closing <;> rfl

theorem Orderly.close (h : t.Orderly s mode) : t.close.Orderly s mode := by
  have hgate := closeGate_fst t.pipeline.gate t.book
  unfold Service.close
  rcases hclose : Pipeline.closeGate t.pipeline.gate t.book with ⟨gate, book⟩
  rw [hclose] at hgate
  obtain rfl : gate = _ := hgate
  exact ⟨⟨h.setBy.max, h.setBy.allowed, h.setBy.redirect, h.setBy.siteHeaders⟩,
    ⟨h.tallied.inside, h.tallied.slots, h.tallied.room⟩, h.passed⟩

/-! ### Any time in service -/

/-- **Whatever happens keeps the service in order.** -/
theorem Orderly.step (h : t.Orderly s mode) (base : Base) (x : Happening) : (t.step base x).Orderly s mode := by
  cases x with
  | arrives r => exact h.arrive base r
  | ends i => exact h.finish i
  | closes => exact h.close

theorem Orderly.run (h : t.Orderly s mode) (base : Base) (xs : List Happening) :
    (Service.run base xs t).Orderly s mode := by
  induction xs generalizing t with
  | nil => exact h
  | cons x xs ih => exact ih (h.step base x)

/-- A pipeline that was just built is in order. -/
theorem orderly_ofSettings (site : Site) (s : Settings) (mode : RunMode) (b : Logbook) :
    Orderly s mode { pipeline := .ofSettings site s mode, book := b } where
  setBy := ⟨rfl, rfl, rfl, rfl⟩
  tallied := ⟨rfl, rfl, Nat.zero_le _⟩
  passed := nofun

/-- Nothing but closing it closes the gate. -/
theorem closing_step (h : t.pipeline.SetBy s mode) (base : Base) (x : Happening) :
    (t.step base x).pipeline.gate.closing = true ↔ t.pipeline.gate.closing = true ∨ x = .closes := by
  cases x with
  | arrives r =>
    obtain ⟨v, reply, p, b, -, -, hhandled, hstep⟩ := receives_of_setBy h base r
    rw [hstep]
    cases hhandled <;> simp [Pipeline.withOneMore]
  | ends i =>
    simp only [reduceCtorEq, or_false]
    show (t.finish i).pipeline.gate.closing = true ↔ _
    unfold finish
    split
    · rfl
    split
    · rfl
    · rfl
  | closes =>
    simp only [or_true, iff_true]
    exact congrArg Gate.closing (closeGate_fst t.pipeline.gate t.book)

/-- **The gate is closing if it was closed at some time.** -/
theorem closing_run (h : t.Orderly s mode) (base : Base) (xs : List Happening) :
    (run base xs t).pipeline.gate.closing = true ↔ t.pipeline.gate.closing = true ∨ .closes ∈ xs := by
  induction xs generalizing t with
  | nil => simp [run]
  | cons x xs ih =>
    have hrest := ih (h.step base x)
    rw [closing_step h.setBy] at hrest
    rw [List.mem_cons, ← or_assoc, eq_comm (b := x)]
    exact hrest

/-! ### What is counted -/

/-- The base counts no refusals of its own. -/
def CountsNone (base : Base) : Prop :=
  ∀ r b st, rejections (base.answer r b).2 st = rejections b st

/-- Nor does it with the pipeline's own answer where no route leads. -/
theorem CountsNone.withFallback (h : CountsNone base) : CountsNone (Pipeline.withFallback base) := by
  intro r b st
  have hbase := h r b st
  unfold Base.answer at hbase ⊢
  unfold Pipeline.withFallback
  cases hanswer : base.answer? r with
  | none => rfl
  | some answer =>
    simp only [hanswer] at hbase ⊢
    exact hbase

/-- The host's own site counts none. -/
theorem countsNone_base (site : Site) : CountsNone site.base := by
  intro r b st
  unfold Base.answer
  split
  · rfl
  · rename_i answer hanswer
    obtain ⟨route, -, rfl⟩ := Option.map_eq_some_iff.1 hanswer
    unfold Site.routeAnswer
    split
    · unfold Site.render
      split
      · rfl
      · rfl
      · exact rejections_emit b _ st
    · rfl

/-- The visits that a stage refused. -/
def refusals (t : Service) (st : Stage) : Nat :=
  t.visits.countP (·.verdict == .refused st)

/-- A visit adds one to what its stage counts, and to nothing else. -/
theorem rejections_arrive (h : t.pipeline.SetBy s mode) (hbase : CountsNone base) (r : Request) (st : Stage) :
    rejections (t.arrive base r).book st + t.refusals st =
      rejections t.book st + (t.arrive base r).refusals st := by
  obtain ⟨v, reply, p, b, -, -, hhandled, hstep⟩ := receives_of_setBy h base r
  have harrive : t.arrive base r = _ := hstep
  -- the list of visits and the counter grow by the same number, whatever the verdict is
  have hone : (t.arrive base r).refusals st = t.refusals st + if v = .refused st then 1 else 0 := by
    rw [harrive, refusals, List.countP_append, List.countP_singleton]
    simp only [beq_iff_eq, refusals]
  have hcount : rejections b st = rejections t.book st + if v = .refused st then 1 else 0 := by
    cases hhandled with
    | byItself _ hcount => exact hcount st
    | answered hanswer _ hcount =>
      have hquiet := hbase r (t.pipeline.entered t.book) st
      rw [hanswer] at hquiet
      rw [hcount, hquiet]
      rfl
    | waits hanswer =>
      have hquiet := hbase r (t.pipeline.entered t.book) st
      rw [hanswer] at hquiet
      rw [hquiet]
      rfl
  have hbook : (t.arrive base r).book = b := congrArg Service.book harrive
  rw [hbook, hcount, hone]
  omega

/-- The verdict about a visit is not changed by its end. -/
theorem refusals_finish (t : Service) (i : Nat) (st : Stage) : (t.finish i).refusals st = t.refusals st := by
  unfold finish
  split
  · rfl
  rename_i v hv
  split
  · rfl
  · exact Nat.add_right_cancel (countP_set_add (·.verdict == .refused st) hv v.ended)

theorem rejections_step (h : t.pipeline.SetBy s mode) (hbase : CountsNone base) (x : Happening) (st : Stage) :
    rejections (t.step base x).book st + t.refusals st =
      rejections t.book st + (t.step base x).refusals st := by
  cases x with
  | arrives r => exact rejections_arrive h hbase r st
  | ends i =>
    have hbook : rejections (t.finish i).book st = rejections t.book st := by
      unfold finish
      split
      · rfl
      split <;> rfl
    exact congrArg₂ (· + ·) hbook (refusals_finish t i st).symm
  | closes =>
    have hbook : rejections t.close.book st = rejections t.book st := by
      unfold close Pipeline.closeGate
      cases t.pipeline.gate.close with
      | mk closed gate =>
        cases closed with
        | true => rfl
        | false => exact rejections_emit t.book _ st
    exact congrArg (· + _) hbook

/-- **The counter of a stage says how many requests it refused**, if the base counts none of its own. -/
theorem rejections_run (h : t.Orderly s mode) (hbase : CountsNone base) (xs : List Happening) (st : Stage) :
    rejections (run base xs t).book st + t.refusals st = rejections t.book st + (run base xs t).refusals st := by
  induction xs generalizing t with
  | nil => rfl
  | cons x xs ih =>
    have hstep := rejections_step h.setBy hbase x st
    have hrest := ih (h.step base x)
    show rejections (run base xs (t.step base x)).book st + _ = _ + (run base xs (t.step base x)).refusals st
    omega

/-! ### The pipeline and its settings -/

/-- **A pipeline does with every request what its settings say.**

With any gate and any number of slots taken, over any base, there is one verdict about a request, and the pipeline
does what it says. In service, whatever happens in whatever order, the gate counts the visits that it let in and
that are not finished, the limiter those of them that are past it, never more than it has slots, and the gate is
closing once it was closed. The counter of each stage grows by the number of visits that the stage refused, if the
base counts no refusals of its own, and the host's own site counts none. Where no route leads the base has the
pipeline's own answer, the host's own site is such a base, and the text of the header that goes with a refused
method names those of the settings, each once. -/
theorem refines_verdicts (s : Settings) (mode : RunMode) (site : Site) (base : Base) :
    (∀ gate taken b visits r,
      let limiter : Limiter := { max := s.pipeline.maxConcurrentRequests, inFlight := taken }
      let p : Pipeline := { Pipeline.ofSettings site s mode with gate, limiter }
      Receives s mode (Pipeline.withFallback base) ⟨p, b, visits⟩ r) ∧
    (∀ b xs,
      let t := run (Pipeline.withFallback base) xs { pipeline := .ofSettings site s mode, book := b }
      t.Tallied s ∧ (t.pipeline.gate.closing = true ↔ .closes ∈ xs) ∧
        ∀ r, t.Receives s mode (Pipeline.withFallback base) r) ∧
    (CountsNone base → ∀ b xs st,
      let t := run (Pipeline.withFallback base) xs { pipeline := .ofSettings site s mode, book := b }
      rejections t.book st = rejections b st + t.refusals st) ∧
    CountsNone { site with mode }.base ∧
    (∀ r b, base.answer? r = none →
      (Pipeline.withFallback base).answer r b = (.answered (.plain 404 "Not found"), b)) ∧
    (∀ gate limiter r b,
      { Pipeline.ofSettings site s mode with gate, limiter }.handle r b =
        { Pipeline.ofSettings site s mode with gate, limiter }.handleOver
          (Pipeline.withFallback { site with mode }.base) r b) ∧
    ∃ ms : List Method, ms.Nodup ∧ (∀ m, m ∈ ms ↔ Names s m) ∧
      (AllowedMethods.ofNames s.pipeline.allowedMethods).headerText =
        String.intercalate ", " (ms.map (·.text)) := by
  refine ⟨?_, ?_, ?_, countsNone_base _, ?_, fun _ _ _ _ => rfl, AllowedMethods.exists_headerText_ofNames _⟩
  · intro gate taken b visits r
    exact receives_of_setBy (Pipeline.setBy_ofSettings site s mode gate taken) _ r
  · intro b xs
    have hstart := orderly_ofSettings site s mode b
    have horder := hstart.run (Pipeline.withFallback base) xs
    refine ⟨horder.tallied, (closing_run hstart _ xs).trans ?_, receives_of_setBy horder.setBy _⟩
    exact or_iff_right Bool.false_ne_true
  · intro hbase b xs st
    exact rejections_run (orderly_ofSettings site s mode b) hbase.withFallback xs st
  · intro r b hroute
    unfold Base.answer Pipeline.withFallback
    simp only [hroute]
    rfl

end Service

end ModuleHost.Http
