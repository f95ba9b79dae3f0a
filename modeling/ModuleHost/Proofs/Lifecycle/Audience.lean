import Mathlib
import ModuleHost.Lifecycle.Reaction
import ModuleHost.Proofs.Lifecycle.Minutes

/-!
# Who hears an event

Listeners use the bus while they are called: they take in others, let others or themselves go, and dispatch events
of their own. Whatever they do can be written down beside it, without changing any of it.

* `Conduct.noted`, `noting`: a conduct, and what listeners do, that writes down every act.
* `Hall.dispatch_of_le`: what a dispatch comes to does not hang on how deep dispatches may go.
* `Hall.dispatch_noted`: **a dispatch does the same when it is written down**, and what is written says what is
  so.
* `Hall.event_delivery`: a dispatch calls whoever was subscribed when it began, each once and in order, whatever
  happens meanwhile; and the numbers tell one subscription from every other.
-/

namespace ModuleHost

variable {α σ : Type}

/-! ### Writing down -/

/-- **A state with minutes.** -/
structure Noted (α σ : Type) where
  state : σ
  acts : List (BusAct α)
  /-- The dispatches that have begun and not ended, the latest first. -/
  running : List Nat

namespace Noted

def write (x : BusAct α) (s : Noted α σ) : Noted α σ :=
  { s with acts := s.acts ++ [x] }

/-- A dispatch begins. -/
def begin (e : HostEvent) (s : Noted α σ) : Noted α σ :=
  { s.write (.begun e) with running := BusAct.begins s.acts :: s.running }

/-- The latest dispatch calls somebody. -/
def call (e : HostEvent) (a : α) (s : Noted α σ) : Noted α σ :=
  s.write (.called (s.running.headD 0) e a)

/-- The latest dispatch ends. -/
def finish (s : Noted α σ) : Noted α σ :=
  { s.write (.ended (s.running.headD 0)) with running := s.running.tail }

end Noted

/-- **A conduct that writes down what it does.** -/
def Conduct.noted : Conduct α σ → Conduct α (Noted α σ)
  | done => done
  | subscribe a next => subscribe a fun id => change (.write (.subscribed id a)) (next id).noted
  | unsubscribe id next => unsubscribe id fun found => change (.write (.unsubscribed id found)) (next found).noted
  | dispatch e next => change (.begin e) (dispatch e (change .finish next.noted))
  | look next => look fun s => (next s.state).noted
  | change f next => change (fun s => { s with state := f s.state }) next.noted

/-- **Listeners that write down that they are called**, and what they do about it. -/
def noting (hear : α → HostEvent → Conduct α σ) (a : α) (e : HostEvent) : Conduct α (Noted α σ) :=
  .change (.call e a) (hear a e).noted

namespace Hall

/-- A bus at work, with minutes beside it. -/
def withNotes (h : Hall α σ) (acts : List (BusAct α)) (running : List Nat) : Hall α (Noted α σ) where
  bus := h.bus
  book := h.book
  state := ⟨h.state, acts, running⟩

variable {hear : α → HostEvent → Conduct α σ} {h h' : Hall α σ} {c : Conduct α σ} {e : HostEvent} {depth n : Nat}
  {acts xs : List (BusAct α)}

/-! ### How deep dispatches go -/

/-- A conduct that comes to its end does so too where more dispatches do. -/
theorem perform_mono {again again' : HostEvent → Hall α σ → Option (Hall α σ)}
    (hagain : ∀ e h h', again e h = some h' → again' e h = some h') (hrun : perform again c h = some h') :
    perform again' c h = some h' := by
  induction c generalizing h with
  | done => exact hrun
  | subscribe a next ih => exact ih _ hrun
  | unsubscribe id next ih => exact ih _ hrun
  | dispatch e next ih =>
    obtain ⟨h₁, hdispatch, hrest⟩ := Option.bind_eq_some_iff.1 hrun
    exact Option.bind_eq_some_iff.2 ⟨h₁, hagain e h h₁ hdispatch, ih hrest⟩
  | look next ih => exact ih _ hrun
  | change f next ih => exact ih hrun

/-- **What a dispatch comes to does not hang on the depth**, once that is enough. -/
theorem dispatch_of_le {depth' : Nat} (hle : depth ≤ depth') (hrun : dispatch hear depth e h = some h') :
    dispatch hear depth' e h = some h' := by
  induction depth generalizing depth' e h h' with
  | zero => cases hrun
  | succ depth ih =>
    obtain ⟨depth', rfl⟩ := Nat.exists_eq_add_of_le' (Nat.le_of_add_left_le hle)
    have hdeeper {a : α} {h h' : Hall α σ} (hheard : perform (dispatch hear depth) (hear a e) h = some h') :
        perform (dispatch hear depth') (hear a e) h = some h' :=
      perform_mono (fun _ _ _ hrun => ih (Nat.le_of_succ_le_succ hle) hrun) hheard
    have htell (audience : List α) {h h' : Hall α σ}
        (htold : audience.foldlM (fun h a => perform (dispatch hear depth) (hear a e) h) h = some h') :
        audience.foldlM (fun h a => perform (dispatch hear depth') (hear a e) h) h = some h' := by
      induction audience generalizing h with
      | nil => exact htold
      | cons a audience iha =>
        rw [List.foldlM_cons] at htold ⊢
        obtain ⟨h₁, hheard, hrest⟩ := Option.bind_eq_some_iff.1 htold
        exact Option.bind_eq_some_iff.2 ⟨h₁, hdeeper hheard, iha hrest⟩
    exact htell _ hrun

/-! ### The bus is what the minutes say -/

/-- **The bus is what the minutes say.** -/
structure Kept (acts : List (BusAct α)) (h : Hall α σ) : Prop where
  listeners : h.bus.listeners = BusAct.standing acts
  next : h.bus.nextId = (BusAct.taken acts).length % EventBus.idCount

theorem Kept.subscribe (hk : h.Kept acts) (a : α) :
    Kept (acts ++ [.subscribed h.bus.nextId a]) { h with bus := (h.bus.subscribe a).2 } where
  listeners := by
    rw [BusAct.standing_concat, ← hk.listeners]
    rfl
  next := by
    have hlength : (BusAct.taken (acts ++ [.subscribed h.bus.nextId a])).length =
        (BusAct.taken acts).length + 1 := by
      rw [BusAct.taken_append, List.length_append]
      rfl
    rw [hlength]
    show (h.bus.nextId + 1) % EventBus.idCount = _
    rw [hk.next, Nat.mod_add_mod]

theorem Kept.unsubscribe (hk : h.Kept acts) (id : Nat) (found : Bool) :
    Kept (acts ++ [.unsubscribed id found]) { h with bus := (h.bus.unsubscribe id).2 } where
  listeners := by
    rw [BusAct.standing_concat, ← hk.listeners]
    rfl
  next := by
    have hlength : (BusAct.taken (acts ++ [.unsubscribed id found])).length = (BusAct.taken acts).length := by
      rw [BusAct.taken_append, List.length_append]
      rfl
    rw [hlength]
    exact hk.next

/-- An act that leaves the bus as it is. -/
theorem Kept.pass (hk : h.Kept acts) {x : BusAct α} (htaken : BusAct.taken? x = none)
    (henter : ∀ ls, BusAct.enter ls x = ls) : h.Kept (acts ++ [x]) where
  listeners := by
    rw [BusAct.standing_concat, henter]
    exact hk.listeners
  next := by
    have hsame : BusAct.taken (acts ++ [x]) = BusAct.taken acts := by
      rw [BusAct.taken_append]
      simp [BusAct.taken, htaken]
    rw [hsame]
    exact hk.next

theorem Kept.found_iff (hk : h.Kept acts) (id : Nat) :
    (h.bus.unsubscribe id).1 = true ↔ ∃ a, (id, a) ∈ BusAct.standing acts := by
  rw [← hk.listeners]
  simp [EventBus.unsubscribe]

/-! ### What is written -/

/-- **Dispatches are written down**: beside each the same is done with minutes, and these say what is so. -/
def Minuted (again : HostEvent → Hall α σ → Option (Hall α σ))
    (again' : HostEvent → Hall α (Noted α σ) → Option (Hall α (Noted α σ))) : Prop :=
  ∀ ⦃e h h' acts⦄, again e h = some h' → h.Kept acts → ∀ running, ∃ xs,
    again' e (h.withNotes (acts ++ [.begun e]) (BusAct.begins acts :: running)) =
        some (h'.withNotes (acts ++ .begun e :: xs) (BusAct.begins acts :: running)) ∧
      h'.Kept (acts ++ .begun e :: xs) ∧ BusAct.Told acts (.begun e :: (xs ++ [.ended (BusAct.begins acts)]))

variable {again : HostEvent → Hall α σ → Option (Hall α σ)}
  {again' : HostEvent → Hall α (Noted α σ) → Option (Hall α (Noted α σ))}

/-- **A conduct does the same when it is written down.** The proof goes along the conduct, act by act. -/
theorem perform_noted (hagain : Minuted again again') (hrun : perform again c h = some h') (hk : h.Kept acts)
    (running : List Nat) :
    ∃ xs, perform again' c.noted (h.withNotes acts running) = some (h'.withNotes (acts ++ xs) running) ∧
      h'.Kept (acts ++ xs) ∧ BusAct.Told acts xs := by
  induction c generalizing h acts with
  | done =>
    obtain rfl : h = h' := Option.some.inj hrun
    refine ⟨[], ?_, ?_, BusAct.told_nil⟩
    · rw [List.append_nil]
      rfl
    · rwa [List.append_nil]
  | subscribe a next ih =>
    obtain ⟨xs, hnoted, hk', htold⟩ := ih _ hrun (hk.subscribe a)
    have hfirst : BusAct.Told acts [.subscribed h.bus.nextId a] :=
      ⟨BusAct.faithful_singleton hk.next, fun _ _ => rfl⟩
    rw [List.append_assoc] at hnoted hk'
    exact ⟨_, hnoted, hk', hfirst.append htold⟩
  | unsubscribe id next ih =>
    obtain ⟨xs, hnoted, hk', htold⟩ := ih _ hrun (hk.unsubscribe id (h.bus.unsubscribe id).1)
    have hfirst : BusAct.Told acts [.unsubscribed id (h.bus.unsubscribe id).1] :=
      ⟨BusAct.faithful_singleton (hk.found_iff id), fun _ _ => rfl⟩
    rw [List.append_assoc] at hnoted hk'
    exact ⟨_, hnoted, hk', hfirst.append htold⟩
  | dispatch e next ih =>
    obtain ⟨h₁, hdispatch, hrest⟩ := Option.bind_eq_some_iff.1 hrun
    obtain ⟨xs, hbegun, hk₁, hfirst⟩ := hagain hdispatch hk running
    have hsplit : acts ++ .begun e :: xs ++ [.ended (BusAct.begins acts)] =
        acts ++ .begun e :: (xs ++ [.ended (BusAct.begins acts)]) := by simp
    have hended := hk₁.pass (x := .ended (BusAct.begins acts)) rfl fun _ => rfl
    obtain ⟨ys, hfinished, hk', hrest⟩ := ih hrest hended
    rw [hsplit] at hk' hrest
    refine ⟨_, ?_, List.append_assoc acts _ ys ▸ hk', hfirst.append hrest⟩
    show (again' e (h.withNotes (acts ++ [.begun e]) (BusAct.begins acts :: running))).bind
      (perform again' (.change .finish next.noted)) = _
    rw [hbegun, ← List.append_assoc, ← hsplit]
    exact hfinished
  | look next ih => exact ih _ hrun hk
  | change f next ih => exact ih hrun ⟨hk.listeners, hk.next⟩

/-- **Everybody in an audience is told**, one after another, and what each does about it is written down. The
dispatch began before, so its number is below all that begin meanwhile. -/
theorem tell_noted (hagain : Minuted (dispatch hear depth) (dispatch (noting hear) depth)) {audience : List α}
    (hrun : audience.foldlM (fun h a => perform (dispatch hear depth) (hear a e) h) h = some h') (hk : h.Kept acts)
    (hn : n < BusAct.begins acts) (running : List Nat) :
    ∃ xs, audience.foldlM (fun h a => perform (dispatch (noting hear) depth) (noting hear a e) h)
          (h.withNotes acts (n :: running)) = some (h'.withNotes (acts ++ xs) (n :: running)) ∧
      h'.Kept (acts ++ xs) ∧ BusAct.Faithful acts xs ∧ BusAct.callsBy n xs = audience.map (fun a => (e, a)) ∧
      ∀ m < BusAct.begins acts, m ≠ n → BusAct.callsBy m xs = [] := by
  induction audience generalizing h acts with
  | nil =>
    obtain rfl : h = h' := Option.some.inj hrun
    refine ⟨[], ?_, ?_, BusAct.faithful_nil, rfl, fun _ _ _ => rfl⟩
    · rw [List.append_nil]
      rfl
    · rwa [List.append_nil]
  | cons a audience ih =>
    rw [List.foldlM_cons] at hrun
    obtain ⟨h₁, hfirst, hrest⟩ := Option.bind_eq_some_iff.1 hrun
    have hcalled := hk.pass (x := .called n e a) rfl fun _ => rfl
    obtain ⟨xs, hnoted, hk₁, htold⟩ := perform_noted hagain hfirst hcalled (n :: running)
    have hgrown : BusAct.begins acts ≤ BusAct.begins (acts ++ [.called n e a] ++ xs) := by
      rw [BusAct.begins_append, BusAct.begins_append]
      omega
    obtain ⟨ys, hothersTold, hk', hys, hcalls, hquiet⟩ := ih hrest hk₁ (Nat.lt_of_lt_of_le hn hgrown)
    have hsplit : acts ++ [.called n e a] ++ xs ++ ys = acts ++ ([.called n e a] ++ xs ++ ys) := by simp
    refine ⟨[.called n e a] ++ xs ++ ys, ?_, hsplit ▸ hk', ?_, ?_, ?_⟩
    · rw [List.foldlM_cons, ← hsplit]
      exact Option.bind_eq_some_iff.2 ⟨_, hnoted, hothersTold⟩
    · have hcall : BusAct.Faithful acts [.called n e a] := BusAct.faithful_singleton hn
      have hone : BusAct.Faithful acts ([.called n e a] ++ xs) :=
        hcall.append htold.faithful fun m _ hm => htold.others m hm
      refine hone.append (by rwa [← List.append_assoc]) fun m hlow hm => ?_
      have hne : m ≠ n := by omega
      exact hquiet m (by rwa [List.append_assoc]) hne
    · have hnone : BusAct.callsBy n xs = [] := by
        refine htold.others n (Nat.lt_of_lt_of_le hn ?_)
        rw [BusAct.begins_append]
        omega
      rw [BusAct.callsBy_append, BusAct.callsBy_append, hnone, hcalls]
      simp [BusAct.callsBy, BusAct.call?]
    · intro m hm hne
      have hnone : BusAct.callsBy m xs = [] := by
        refine htold.others m (Nat.lt_of_lt_of_le hm ?_)
        rw [BusAct.begins_append]
        omega
      rw [BusAct.callsBy_append, BusAct.callsBy_append, hnone, hquiet m (Nat.lt_of_lt_of_le hm hgrown) hne]
      simp [BusAct.callsBy, BusAct.call?, hne.symm]

/-- **A dispatch does the same when it is written down**, however deep dispatches come from within dispatches. -/
theorem dispatch_noted (hear : α → HostEvent → Conduct α σ) (depth : Nat) :
    Minuted (dispatch hear depth) (dispatch (noting hear) depth) := by
  induction depth with
  | zero =>
    intro e h h' acts hrun
    cases hrun
  | succ depth ih =>
    intro e h h' acts hrun hk running
    let hb : Hall α σ := { h with book := h.book.emit (h.bus.notice e) }
    have hbegun : hb.Kept (acts ++ [.begun e]) :=
      Kept.pass (h := hb) ⟨hk.listeners, hk.next⟩ rfl fun _ => rfl
    have hnumber : BusAct.begins acts < BusAct.begins (acts ++ [.begun e]) := by
      simp [BusAct.begins, BusAct.isBegun]
    obtain ⟨xs, htold, hk', hfaithful, hcalls, hquiet⟩ := tell_noted ih hrun hbegun hnumber running
    have hsplit : acts ++ [.begun e] ++ xs = acts ++ .begun e :: xs := by simp
    rw [hsplit] at htold hk'
    refine ⟨xs, htold, hk', BusAct.told_dispatch hfaithful ?_ ?_⟩
    · rw [hcalls, EventBus.audience, hk.listeners, List.map_map]
      rfl
    · intro m hm
      exact hquiet m (Nat.lt_trans hm hnumber) (Nat.ne_of_lt hm)

/-! ### Who is told -/

/-- **What minutes from the beginning say about who is told**, and about the numbers while they last. -/
structure Delivered (acts : List (BusAct α)) : Prop where
  /-- A dispatch calls whoever was subscribed when it began, in that order, each once, and all before it ends. -/
  told : ∀ before e after, acts = before ++ .begun e :: after → ∃ during rest,
    after = during ++ .ended (BusAct.begins before) :: rest ∧
      BusAct.callsBy (BusAct.begins before) before = [] ∧
      BusAct.callsBy (BusAct.begins before) during = (BusAct.standing before).map (fun l => (e, l.2)) ∧
      BusAct.callsBy (BusAct.begins before) rest = []
  /-- Nobody is called but by a dispatch that has begun. -/
  begun : ∀ before n e a after, acts = before ++ .called n e a :: after → n < BusAct.begins before
  /-- No number is given out twice. -/
  unique : (BusAct.taken acts).length ≤ EventBus.idCount → ((BusAct.taken acts).map (·.1)).Nodup
  /-- Who is subscribed is who was taken in and not let go, in the order of the subscriptions. -/
  standing : (BusAct.taken acts).length ≤ EventBus.idCount → ∀ before after, acts = before ++ after →
    BusAct.standing before = (BusAct.taken before).filter (fun l => l.1 ∉ BusAct.released before)
  /-- There is somebody to let go exactly the first time after the number was given out. -/
  found : (BusAct.taken acts).length ≤ EventBus.idCount → ∀ before id found after,
    acts = before ++ .unsubscribed id found :: after →
      (found = true ↔ (∃ a, (id, a) ∈ BusAct.taken before) ∧ id ∉ BusAct.released before)

/-- A dispatch calls nobody before it begins. -/
theorem callsBy_before {before after : List (BusAct α)} (h : BusAct.Faithful [] (before ++ after)) :
    BusAct.callsBy (BusAct.begins before) before = [] := by
  refine List.eq_nil_iff_forall_not_mem.2 fun ⟨e, a⟩ hcall => ?_
  obtain ⟨first, later, hsplit⟩ := List.append_of_mem (BusAct.mem_callsBy_iff.1 hcall)
  have hplace : before ++ after = first ++ .called (BusAct.begins before) e a :: (later ++ after) :=
    (congrArg (· ++ after) hsplit).trans (List.append_assoc first _ after)
  have hbegun : BusAct.begins before < BusAct.begins first := h first _ _ hplace
  have hle : BusAct.begins first ≤ BusAct.begins before := by
    rw [hsplit, BusAct.begins_append]
    omega
  omega

theorem delivered_of_faithful (h : BusAct.Faithful [] acts) : Delivered acts := by
  have hbooked {before after : List (BusAct α)} (heq : acts = before ++ after)
      (hlast : (BusAct.taken acts).length ≤ EventBus.idCount) : BusAct.Booked before := by
    rw [heq] at h hlast
    rw [BusAct.taken_append, List.length_append] at hlast
    exact h.answered.of_append.booked (Nat.le_of_add_right_le hlast)
  refine ⟨?_, ?_, ?_, ?_, ?_⟩
  · intro before e after heq
    obtain ⟨during, rest, hafter, hduring, hrest⟩ := h before (.begun e) after heq
    exact ⟨during, rest, hafter, callsBy_before (heq ▸ h), hduring, hrest⟩
  · intro before n e a after heq
    exact h before (.called n e a) after heq
  · intro hlast
    rw [(hbooked (List.append_nil acts).symm hlast).numbers]
    exact List.nodup_range
  · intro hlast before after heq
    exact (hbooked heq hlast).present
  · intro hlast before id found after heq
    have hstanding := (hbooked heq hlast).mem_standing_iff id
    have hnumber := (hbooked heq hlast).mem_taken_iff id
    rw [hnumber, ← hstanding]
    exact h before (.unsubscribed id found) after heq

/-- **An event goes to whoever was subscribed when its dispatch began**, whatever is done on a new bus, by
listeners while they are called and by anybody else. Written down, all that is done comes to the same: each
dispatch calls those who were subscribed when it began, each once and in order, who is let go meanwhile is called
all the same, and who is taken in meanwhile is not. While the numbers last, each is given out once, and who is let
go is one listener, once. -/
theorem event_delivery (hnew : h.bus = {}) (hrun : perform (dispatch hear depth) c h = some h') :
    ∃ acts, perform (dispatch (noting hear) depth) c.noted (h.withNotes [] []) = some (h'.withNotes acts []) ∧
      h'.bus.listeners = BusAct.standing acts ∧ Delivered acts := by
  have hk : h.Kept [] := by
    refine ⟨?_, ?_⟩
    · rw [hnew]
      rfl
    · rw [hnew]
      rfl
  obtain ⟨acts, hnoted, hk', htold⟩ := perform_noted (dispatch_noted hear depth) hrun hk []
  exact ⟨acts, hnoted, hk'.listeners, delivered_of_faithful htold.faithful⟩

/-- When the host is ready, the first listener lets the last one go, the second takes in another, and the third
dispatches an event of its own. The last one hears the first event all the same, and the new one in its place
hears only the second. -/
theorem event_delivery_replaced :
    let ready := some HostEvent.frameworkReady.text
    let lets : Reactor := ⟨"lets", some (ready, .unsubscribe "leaves")⟩
    let takes : Reactor := ⟨"takes", some (ready, .subscribe "comes")⟩
    let tells : Reactor := ⟨"tells", some (ready, .dispatch .frameworkStopping)⟩
    let leaves : Reactor := ⟨"leaves", none⟩
    let c : Conduct Reactor Attendance :=
      lets.join fun _ => takes.join fun _ => tells.join fun _ => leaves.join fun _ =>
        .dispatch .frameworkReady .done
    let h : Reactors := ⟨{}, default, {}⟩
    ∃ acts : List (BusAct Reactor), perform (dispatch Reactor.hear h.depth) c h = some (h.perform c) ∧
      (h.perform c).bus.listeners.map (fun l => (l.1, l.2.name)) =
        [(0, "lets"), (1, "takes"), (2, "tells"), (4, "comes")] ∧
      Delivered acts ∧
      (BusAct.callsBy 0 acts).map (fun l => (l.1, l.2.name)) =
        ["lets", "takes", "tells", "leaves"].map (fun name => (.frameworkReady, name)) ∧
      (BusAct.callsBy 1 acts).map (fun l => (l.1, l.2.name)) =
        ["lets", "takes", "tells", "comes"].map (fun name => (.frameworkStopping, name)) := by
  intro ready lets takes tells leaves c h
  obtain ⟨h', hrun⟩ : ∃ h', perform (dispatch Reactor.hear h.depth) c h = some h' :=
    Option.isSome_iff_exists.1 (by decide +kernel)
  have hperform : h.perform c = h' := by
    unfold Reactors.perform
    rw [hrun]
    rfl
  obtain ⟨acts, hnoted, -, hdelivered⟩ := event_delivery rfl hrun
  have hcalls : (perform (dispatch (noting Reactor.hear) h.depth) c.noted (h.withNotes [] [])).map
      (fun h => ((BusAct.callsBy 0 h.state.acts).map (fun l => (l.1, l.2.name)),
        (BusAct.callsBy 1 h.state.acts).map (fun l => (l.1, l.2.name)))) =
      some (["lets", "takes", "tells", "leaves"].map (fun name => (.frameworkReady, name)),
        ["lets", "takes", "tells", "comes"].map (fun name => (.frameworkStopping, name))) := by
    decide +kernel
  rw [hnoted] at hcalls
  obtain ⟨hfirst, hsecond⟩ := Prod.mk.inj (Option.some.inj hcalls)
  exact ⟨acts, hperform ▸ hrun, by decide +kernel, hdelivered, hfirst, hsecond⟩

end Hall

end ModuleHost
