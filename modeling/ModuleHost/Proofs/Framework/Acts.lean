import Mathlib
import ModuleHost.Framework.Start
import ModuleHost.Proofs.Lifecycle.Frame

/-!
# The acts of a start and of a stop

* `Host.startsAt`, `Host.stopsAt`: what is done to modules that are started, and to modules that are stopped,
  while the registry is in some state; `Host.starts`, `Host.stops`: while it is active.
* `Host.moved_stopModules`: modules are stopped in the reverse order of their start.
* `Host.moved_startModules`: **either all modules are started, or those that were are stopped again**.
* `Host.startFramework_cases`: how a start of modules that do not run can end.
-/

namespace ModuleHost.Host

/-- What is done to modules that are started, one after another, in a state of the registry. -/
def startsAt (s : RegistryState) (us : List HostModule) : List Deed :=
  us.flatMap (fun m => [.activated m, .dispatched (.moduleStarted m.id) s])

/-- What is done to modules that are stopped after they were started in this order, in a state of the registry. -/
def stopsAt (s : RegistryState) (us : List HostModule) : List Deed :=
  us.reverse.flatMap (fun m => [.deactivated m, .dispatched (.moduleStopped m.id) s])

/-- What is done to modules that are started, one after another. -/
def starts (us : List HostModule) : List Deed :=
  us.flatMap (fun m => [.activated m, .dispatched (.moduleStarted m.id) .active])

/-- What is done to modules that are stopped after they were started in this order. -/
def stops (us : List HostModule) : List Deed :=
  us.reverse.flatMap (fun m => [.deactivated m, .dispatched (.moduleStopped m.id) .active])

/-- What is done to a module that cannot be started. -/
inductive Fails (m : HostModule) : List Deed → Prop where
  | refused : Fails m [.refused m]
  /-- It was activated already when its routes were found not to fit. -/
  | unrouted : Fails m [.activated m, .deactivated m]

/-- What is done to a module that cannot be started, with the error that says so. -/
inductive FailsBy (m : HostModule) : FrameworkError → List Deed → Prop where
  | refused {source : String} : m.refusal = some source → FailsBy m (.activation m.id source) [.refused m]
  | unrouted {reason : String} :
      m.refusal = none → FailsBy m (.routeConflict m.id reason) [.activated m, .deactivated m]

variable {h : Host} {s : RegistryState} {m : HostModule} {ms us : List HostModule} {ds : List Deed}
  {run run' : Running} {e : FrameworkError}

theorem FailsBy.fails (hf : FailsBy m e ds) : Fails m ds := by
  cases hf with
  | refused _ => exact .refused
  | unrouted _ => exact .unrouted

theorem stopsAt_append_singleton (s : RegistryState) (us : List HostModule) (m : HostModule) :
    stopsAt s (us ++ [m]) = stopsAt s [m] ++ stopsAt s us := by
  unfold stopsAt
  rw [List.reverse_append, List.flatMap_append]

/-! ### One module -/

theorem moved_sayOf (h : Host) (m : HostModule) (s : Severity) (message : String)
    (more : List (String × FieldValue)) : Moved h (h.sayOf m s message more) [] :=
  moved_report h _

theorem moved_grantClaim (h : Host) (m : HostModule) : Moved h (h.grantClaim m) [] := by
  unfold grantClaim
  cases m.claim with
  | none => exact Moved.refl h
  | some c =>
    have hbook := (Logbook.kept_claim h.book c).unmoved
    simp only
    split
    · rename_i heq
      rw [heq] at hbook
      exact moved_book h hbook
    · rename_i heq
      rw [heq] at hbook
      exact (moved_book h hbook).idle (moved_sayOf _ _ _ _ _)

/-- **A module is stopped** and the bus is told. -/
theorem moved_stopModule (hs : h.book.registry.state = s) (m : HostModule) :
    Moved h (h.stopModule m) (stopsAt s [m]) := by
  have hdone := (moved_record h (d := .deactivated m) rfl).idle (moved_sayOf _ m .info "Module stopped" [])
  have htold := moved_dispatch ((h.record (.deactivated m)).sayOf m .info "Module stopped") (.moduleStopped m.id)
  rw [hdone.book.state, hs] at htold
  exact hdone.trans htold

/-- **A module is started** and the bus is told, or it fails and the bus is not told. -/
theorem moved_startModule (hs : h.book.registry.state = s) (m : HostModule) (run : Running) :
    (∀ run', (h.startModule m run).1 = .ok run' →
      run'.started = run.started ++ [m] ∧ Moved h (h.startModule m run).2 (startsAt s [m])) ∧
    ∀ e, (h.startModule m run).1 = .error e → ∃ ds, FailsBy m e ds ∧ Moved h (h.startModule m run).2 ds := by
  unfold startModule
  cases hr : m.refusal with
  | some source =>
    have hrefused := (moved_record h (d := .refused m) rfl).idle
      (moved_sayOf _ m .error "Module activation failed" [("error", .shown source)])
    refine ⟨nofun, fun e he => ?_⟩
    cases he
    exact ⟨_, .refused hr, hrefused⟩
  | none =>
    have hactivated := moved_record h (d := .activated m) rfl
    cases mergeRoutes run m with
    | error f =>
      have hundone := (hactivated.idle (moved_sayOf _ m .error "Module routes conflict"
        [("reason", .shown f.message)])).trans (moved_record _ (d := .deactivated m) rfl)
      refine ⟨nofun, fun e he => ?_⟩
      cases he
      exact ⟨_, .unrouted hr, hundone⟩
    | ok router =>
      have hdone := (hactivated.idle (moved_grantClaim _ m)).idle (moved_sayOf _ m .info "Module started" [])
      have htold := moved_dispatch (((h.record (.activated m)).grantClaim m).sayOf m .info "Module started")
        (.moduleStarted m.id)
      rw [hdone.book.state, hs] at htold
      refine ⟨fun run' hrun => ?_, nofun⟩
      cases hrun
      exact ⟨rfl, hdone.trans htold⟩

/-! ### All modules -/

/-- **Modules are stopped**, the one that was started last first. -/
theorem moved_stopModules (hs : h.book.registry.state = s) (us : List HostModule) :
    Moved h (h.stopModules us) (stopsAt s us) := by
  unfold stopModules
  induction us using List.reverseRecOn generalizing h with
  | nil => exact Moved.refl h
  | append_singleton us m ih =>
    rw [List.reverse_append, List.reverse_singleton, List.singleton_append, List.foldl_cons,
      stopsAt_append_singleton]
    have hone := moved_stopModule hs m
    exact hone.trans (ih (hone.book.state.trans hs))

/-- **Either all modules are started, or those that were are stopped again.** The one that failed is neither
announced nor stopped. -/
theorem moved_startModules (hs : h.book.registry.state = s) (ms : List HostModule) (run : Running) :
    (∀ run', (startModules ms run h).1 = .ok run' →
      run'.started = run.started ++ ms ∧ Moved h (startModules ms run h).2 (startsAt s ms)) ∧
    ∀ e, (startModules ms run h).1 = .error e → ∃ us m rest ds, ms = us ++ m :: rest ∧ FailsBy m e ds ∧
      Moved h (startModules ms run h).2 (startsAt s us ++ ds ++ stopsAt s (run.started ++ us)) := by
  induction ms generalizing run h with
  | nil =>
    refine ⟨fun run' hrun => ?_, nofun⟩
    cases hrun
    exact ⟨(List.append_nil _).symm, Moved.refl h⟩
  | cons m ms ih =>
    obtain ⟨hok, herr⟩ := moved_startModule hs m run
    unfold startModules
    split
    · -- this module fails, and those that ran before are stopped
      rename_i e h' heq
      rw [heq] at herr
      obtain ⟨ds, hfails, hmoved⟩ := herr e rfl
      refine ⟨nofun, fun e' he => ?_⟩
      obtain rfl := Except.error.inj he
      refine ⟨[], m, ms, ds, rfl, hfails, ?_⟩
      have hstopped := hmoved.trans (moved_stopModules (hmoved.book.state.trans hs) run.started)
      rwa [List.append_nil]
    · rename_i run₁ h₁ heq
      rw [heq] at hok
      obtain ⟨hstarted, hmoved⟩ := hok run₁ rfl
      obtain ⟨hrest, hfall⟩ := ih (hmoved.book.state.trans hs) run₁
      constructor
      · intro run' hrun
        obtain ⟨hall, hmoved'⟩ := hrest run' hrun
        rw [hstarted, List.append_assoc] at hall
        exact ⟨hall, hmoved.trans hmoved'⟩
      · intro e he
        obtain ⟨us, m', rest, ds, rfl, hfails, hmoved'⟩ := hfall e he
        refine ⟨m :: us, m', rest, ds, rfl, hfails, ?_⟩
        rw [hstarted, List.append_assoc run.started] at hmoved'
        exact hmoved.trans hmoved'

/-! ### What the modules of a host are -/

theorem framework_grantClaim (h : Host) (m : HostModule) : (h.grantClaim m).framework = h.framework := by
  unfold grantClaim
  split
  · rfl
  · split <;> rfl

theorem framework_stopModules (h : Host) (us : List HostModule) : (h.stopModules us).framework = h.framework := by
  unfold stopModules
  induction us.reverse generalizing h with
  | nil => rfl
  | cons m us ih => exact (ih _).trans (framework_dispatch _ _)

theorem framework_startModule (h : Host) (m : HostModule) (run : Running) :
    (h.startModule m run).2.framework = h.framework := by
  unfold startModule
  cases m.refusal with
  | some source => rfl
  | none =>
    cases mergeRoutes run m with
    | error f => rfl
    | ok router => exact (framework_dispatch _ _).trans (framework_grantClaim _ m)

theorem framework_startModules (ms : List HostModule) (run : Running) (h : Host) :
    (startModules ms run h).2.framework = h.framework := by
  induction ms generalizing run h with
  | nil => rfl
  | cons m ms ih =>
    have hone := framework_startModule h m run
    unfold startModules
    split
    · rename_i heq
      rw [heq] at hone
      exact (framework_stopModules _ _).trans hone
    · rename_i heq
      rw [heq] at hone
      exact (ih _ _).trans hone

/-- **A start of modules that do not run** ends as the start of the modules does, one by one. -/
theorem startFramework_cases (hidle : h.framework.running = none) :
    (∃ e h', startModules h.framework.modules {} h.markStart = (.error e, h') ∧
      h'.framework.modules = h.framework.modules ∧ h'.framework.running = none ∧
        h.startFramework = (.error e, h')) ∨
    ∃ run h', startModules h.framework.modules {} h.markStart = (.ok run, h') ∧
      h'.framework.modules = h.framework.modules ∧
      h.startFramework = (.ok (), { h' with framework := { h'.framework with running := some run } }) := by
  have hready : ¬ h.framework.isReady = true := by
    unfold Framework.isReady
    rw [hidle]
    exact Bool.false_ne_true
  have hframework := framework_startModules h.framework.modules {} h.markStart
  unfold startFramework
  rw [if_neg hready]
  cases heq : startModules h.framework.modules {} h.markStart with
  | mk result h' =>
    rw [heq] at hframework
    have hmodules : h'.framework.modules = h.markStart.framework.modules := congrArg Framework.modules hframework
    cases result with
    | error e => exact Or.inl ⟨e, h', rfl, hmodules, (congrArg Framework.running hframework).trans hidle, rfl⟩
    | ok run => exact Or.inr ⟨run, h', rfl, hmodules, rfl⟩

theorem startFramework_of_running (hrun : h.framework.running = some run) :
    h.startFramework = (.error .alreadyStarted, h) := by
  have hready : h.framework.isReady = true := by
    unfold Framework.isReady
    rw [hrun]
    rfl
  unfold startFramework
  rw [if_pos hready]

/-- **All modules are started**, or those that were are stopped again. -/
theorem moved_startFramework (hs : h.book.registry.state = s) (hidle : h.framework.running = none) :
    h.startFramework.2.framework.modules = h.framework.modules ∧
      (h.startFramework.1 = .ok () → ∃ run, h.startFramework.2.framework.running = some run ∧
        run.started = h.framework.modules ∧ Moved h h.startFramework.2 (startsAt s h.framework.modules)) ∧
      ∀ e, h.startFramework.1 = .error e → h.startFramework.2.framework.running = none ∧
        ∃ us m rest ds, h.framework.modules = us ++ m :: rest ∧ FailsBy m e ds ∧
          Moved h h.startFramework.2 (startsAt s us ++ ds ++ stopsAt s us) := by
  obtain ⟨hall, hfall⟩ := moved_startModules (h := h.markStart) hs h.framework.modules {}
  obtain ⟨e, h', heq, hmodules, hnone, hstart⟩ | ⟨run, h', heq, hmodules, hstart⟩ := startFramework_cases hidle
  · rw [heq] at hfall
    obtain ⟨us, m, rest, ds, hms, hfails, hmoved⟩ := hfall e rfl
    rw [hstart]
    refine ⟨hmodules, nofun, fun e' he => ?_⟩
    obtain rfl := Except.error.inj he
    exact ⟨hnone, us, m, rest, ds, hms, hfails, hmoved.acts, hmoved.bus, hmoved.book⟩
  · rw [heq] at hall
    obtain ⟨hstarted, hmoved⟩ := hall run rfl
    rw [hstart]
    exact ⟨hmodules,
      fun _ => ⟨run, rfl, hstarted, hmoved.acts, hmoved.bus, hmoved.book⟩, nofun⟩

/-- Modules that stop are stopped, and do not run any more. -/
theorem moved_stopFramework (hs : h.book.registry.state = s) (hrun : h.framework.running = some run) :
    Moved h h.stopFramework (stopsAt s run.started) ∧
      h.stopFramework.framework = { h.framework with running := none } := by
  have hstopped := moved_stopModules
      (h := { h with framework := { h.framework with running := none } }) hs run.started
  unfold stopFramework
  rw [hrun]
  exact ⟨⟨hstopped.acts, hstopped.bus, hstopped.book⟩, framework_stopModules _ _⟩

end ModuleHost.Host
