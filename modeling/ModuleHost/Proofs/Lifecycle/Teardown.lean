import Mathlib
import ModuleHost.Lifecycle.Boot
import ModuleHost.Proofs.Http.Listening
import ModuleHost.Proofs.Lifecycle.Round

/-!
# Boots that fail, and shutdowns

* `Host.CleanFailure`: what is left of a host that could not boot.
* `RunningHost.Meanwhile`: what goes on while a host serves.
* `Host.boot_error`: a boot that fails, wherever it does, is undone.
* `Host.boot_ok`, `RunningHost.finishShutdown_down`: a boot that succeeds, and the shutdown of its host.
* `Host.boot_torn_down`: **a failed boot and a shutdown bring down what came up, in the same brackets**.
-/

namespace ModuleHost

open Http (Provisioner ProvisionError)

namespace Host

/-- **What is left of a host that could not boot**: its modules do not run, and were brought down as they came up;
it has the listeners on the bus that it had before; the registry is active still, and the same addresses are in
use. -/
structure CleanFailure (h h' : Host) : Prop where
  notReady : h'.framework.isReady = false
  round : ∃ ds, h'.acts = h.acts ++ ds ∧ Standing h.framework.modules none ds ∧ Bracketed ds
  unsubscribed : h'.bus.listeners = h.bus.listeners.filter (·.1 != h.bus.nextId)
  active : h'.book.registry.state = .active
  sockets : h'.book.machine.sockets = h.book.machine.sockets

/-- **A host whose registry has begun to listen**, and that did nothing else yet. -/
structure Entered (h h' : Host) : Prop where
  history : h'.history = h.history
  framework : h'.framework = h.framework
  bus : h'.bus = (h.bus.subscribe .registry).2
  book : Logbook.Unmoved h.book h'.book

variable {h h₁ h₂ : Host} {ds : List Deed} {port : Option UInt16} {hooks : List Hook} {subscription : Nat}
  {p : Provisioner} {main : UInt16} {ready : Ready}

theorem moved_say (h : Host) (s : Severity) (message : String) (fields : List (String × FieldValue)) :
    Moved h (h.say s message fields) [] :=
  moved_report h _

/-! ### Failures -/

/-- What a host is after its registry does not listen any more. -/
theorem Entered.clean (he : Entered h h₁) (ha : h.book.registry.state = .active) (hg : Grown h₁ h₂ ds)
    (hnone : h₂.framework.running = none) : CleanFailure h (h₂.unsubscribe h.bus.nextId) := by
  have hacts : h₂.acts = h.acts ++ ds := by
    rw [hg.moved.acts]
    unfold acts
    rw [he.history]
  have hstanding : Standing h.framework.modules none ds := by
    rw [← he.framework, ← hnone]
    exact hg.standing
  refine ⟨?_, ⟨ds, hacts, hstanding, hstanding.bracketed⟩, ?_, ?_, ?_⟩
  · show h₂.framework.isReady = false
    unfold Framework.isReady
    rw [hnone]
    rfl
  · show h₂.bus.listeners.filter (·.1 != h.bus.nextId) = _
    rw [hg.moved.bus, he.bus]
    simp [EventBus.subscribe]
  · exact (hg.moved.book.state.trans he.book.state).trans ha
  · exact hg.moved.book.sockets.trans he.book.sockets

/-- **Modules are brought down after a failure**, if they run. -/
theorem grown_stopAfterFailure (ha : h.book.registry.state = .active) (hg : Grown h h₁ ds) :
    ∃ ds', Grown h h₁.stopAfterFailure ds' ∧ h₁.stopAfterFailure.framework.running = none := by
  unfold stopAfterFailure
  split
  · rename_i hready
    obtain ⟨run, hrun⟩ := Option.isSome_iff_exists.1 hready
    have hsaid : Grown h (h₁.say .warn "Stopping module framework after failed boot") ds :=
      hg.idle (moved_say _ _ _ _) rfl
    exact ⟨_, grown_stop ha hsaid hrun⟩
  · rename_i hready
    exact ⟨ds, hg, Option.not_isSome_iff_eq_none.1 hready⟩

theorem Entered.cleanup (he : Entered h h₁) (ha : h.book.registry.state = .active) (hg : Grown h₁ h₂ ds) :
    CleanFailure h (h₂.cleanup h.bus.nextId) := by
  obtain ⟨ds', hg', hnone⟩ := grown_stopAfterFailure (he.book.state.trans ha) hg
  exact he.clean ha hg' hnone

/-! ### Booting -/

/-- **A host that serves**: its modules came up, and they will be stopped first of all. -/
structure Serving (h : Host) (r : RunningHost) : Prop where
  acts : r.host.acts = h.acts ++ comesUp h.framework.modules
  running : ∃ run, r.host.framework.running = some run ∧ run.started = h.framework.modules
  active : r.host.book.registry.state = .active
  shutdown : r.shutdown = { actions := [("module-framework", .stopFramework)] }

/-- **The listeners**: a host whose hooks have run goes on to serve, or is cleaned up. -/
theorem serveOn_spec (he : Entered h h₁) (ha : h.book.registry.state = .active) (hg : Grown h₁ h₂ ds)
    (p : Provisioner) (main : UInt16) (hready : ready.shutdown = {}) :
    (∀ e h', h₂.serveOn p main ready h.bus.nextId = .error (e, h') → CleanFailure h h') ∧
      ∀ r, h₂.serveOn p main ready h.bus.nextId = .ok r → Serving h r := by
  have ha₁ := he.book.state.trans ha
  unfold serveOn
  simp only
  split
  · refine ⟨fun e h' heq => ?_, fun _ hr => (by cases hr)⟩
    obtain ⟨-, rfl⟩ := Prod.mk.inj (Except.error.inj heq)
    exact he.cleanup ha hg
  · rename_i hup
    rw [Bool.not_eq_true, Bool.not_eq_false'] at hup
    obtain ⟨run, hrun⟩ := Option.isSome_iff_exists.1 hup
    have hstanding := hg.standing
    rw [hrun] at hstanding
    obtain ⟨hstate, hunbound⟩ := p.unmoved_startOn main h₂.site h₂.book
    split
    · rename_i e book heq
      rw [heq] at hunbound
      refine ⟨fun e' h' heq' => ?_, fun _ hr => (by cases hr)⟩
      obtain ⟨-, rfl⟩ := Prod.mk.inj (Except.error.inj heq')
      exact he.cleanup ha (hg.idle (moved_book h₂ (hunbound e rfl)) rfl)
    · rename_i server book heq
      rw [heq] at hstate
      refine ⟨fun _ _ he' => (by cases he'), fun r hr => ?_⟩
      obtain rfl := Except.ok.inj hr
      have hsaid := moved_say { h₂ with book } .info "Host ready" [("boot_id", .shown h₂.bootId),
        ("hooks", .shown (Text.quotedList (ready.onShutdown "module-framework" .stopFramework).executed))]
      refine ⟨?_, ⟨run, hrun, ?_⟩, ?_, ?_⟩
      · have hacts : h₂.acts = h.acts ++ ds := by
          rw [hg.moved.acts]
          unfold Host.acts
          rw [he.history]
        cases hstanding with
        | up hstarted =>
          rw [he.framework] at hacts
          exact (hsaid.acts.trans (List.append_nil _)).trans hacts
      · cases hstanding with
        | up hstarted => rw [hstarted, he.framework]
      · exact (hsaid.book.state.trans hstate).trans (hg.active ha₁)
      · show ready.shutdown.push "module-framework" .stopFramework = _
        rw [hready]
        rfl

/-- A host that has begun to boot: it said so, and its registry listens. -/
def booting (h : Host) : Host :=
  ((h.say .info "Host booting" [("boot_id", .shown h.bootId),
    ("mode", .shown h.settings.server.mode.label)]).subscribe .registry).2

/-- **Booting, step by step**: the port, the hooks, the listeners. -/
theorem boot_eq (h : Host) (port : Option UInt16) (hooks : List Hook) :
    h.boot port hooks =
      match Provisioner.resolvePort { settings := h.settings, port } h.booting.book with
      | (.error e, book) => .error (.provision e, { h.booting with book }.unsubscribe h.bus.nextId)
      | (.ok main, book) =>
        match { h.booting with book }.startup hooks with
        | (.error e, h') => .error (.startup e, h'.cleanup h.bus.nextId)
        | (.ok ready, h') => h'.serveOn { settings := h.settings, port } main ready h.bus.nextId :=
  rfl

theorem entered_booting (h : Host) {book : Logbook} (hb : Logbook.Unmoved h.booting.book book) :
    Entered h { h.booting with book } :=
  ⟨rfl, rfl, rfl, (Logbook.unmoved_emit h.book _).trans hb⟩

theorem shutdown_of_startup (h : Host) (hooks : List Hook) (hok : (h.startup hooks).1 = .ok ready) :
    ready.shutdown = {} := by
  unfold startup at hok
  split at hok
  · cases hok
  · split at hok
    · cases hok
    · cases hok
      rfl

/-- **A boot that fails is undone**, wherever it fails, and one that succeeds serves. -/
theorem boot_spec (hidle : h.framework.running = none) (ha : h.book.registry.state = .active)
    (port : Option UInt16) (hooks : List Hook) :
    (∀ e h', h.boot port hooks = .error (e, h') → CleanFailure h h') ∧
      ∀ r, h.boot port hooks = .ok r → Serving h r := by
  have hport := Provisioner.unmoved_resolvePort { settings := h.settings, port } h.booting.book
  rw [boot_eq]
  split
  · rename_i e book heq
    rw [heq] at hport
    have he := entered_booting h hport
    refine ⟨fun e' h' heq' => ?_, fun _ hr => (by cases hr)⟩
    obtain ⟨-, rfl⟩ := Prod.mk.inj (Except.error.inj heq')
    exact he.clean ha ⟨Moved.refl _, rfl, by rw [he.framework, hidle]; exact .idle⟩ (he.framework ▸ hidle)
  · rename_i main book heq
    rw [heq] at hport
    have he := entered_booting h hport
    have hidle' : Grown { h.booting with book } { h.booting with book } [] :=
      ⟨Moved.refl _, rfl, by rw [he.framework, hidle]; exact .idle⟩
    obtain ⟨ds, hg⟩ := grown_startup (he.book.state.trans ha) hidle' hooks
    split
    · rename_i e h₂ heq₂
      rw [heq₂] at hg
      refine ⟨fun e' h' heq' => ?_, fun _ hr => (by cases hr)⟩
      obtain ⟨-, rfl⟩ := Prod.mk.inj (Except.error.inj heq')
      exact he.cleanup ha hg
    · rename_i ready h₂ heq₂
      have hready := shutdown_of_startup _ hooks (congrArg Prod.fst heq₂)
      rw [heq₂] at hg
      exact serveOn_spec he ha hg _ main hready

/-- **A port that cannot be had** ends the boot before any hook runs. -/
theorem boot_of_port_error {e : ProvisionError}
    (he : (Provisioner.resolvePort { settings := h.settings, port } h.book).1 = .error e) :
    ∃ h', h.boot port hooks = .error (.provision e, h') ∧ h'.history = h.history := by
  have hbooting : Logbook.Unmoved h.book h.booting.book := Logbook.unmoved_emit h.book _
  rw [← Provisioner.resolvePort_congr hbooting.sockets hbooting.network] at he
  rw [boot_eq]
  split
  · rename_i e' book heq
    rw [heq] at he
    obtain rfl := Except.error.inj he
    exact ⟨_, rfl, rfl⟩
  · rename_i heq
    rw [heq] at he
    cases he

end Host

/-! ### Serving, and shutting down -/

namespace RunningHost

open Host (Serving comesUp goesDown Standing Bracketed)

/-- **What goes on while a host serves**: whatever is logged, claimed, released or reloaded, and whoever is served
or listens, as long as the registry is active and nothing else is done with the modules. -/
structure Meanwhile (r r' : RunningHost) : Prop where
  acts : r'.host.acts = r.host.acts
  framework : r'.host.framework = r.host.framework
  active : r'.host.book.registry.state = .active
  shutdown : r'.shutdown = r.shutdown

variable {h : Host} {r r₁ r₂ : RunningHost}

theorem Meanwhile.refl (ha : r.host.book.registry.state = .active) : Meanwhile r r :=
  ⟨rfl, rfl, ha, rfl⟩

theorem unmoved_beginStop (s : Http.Server) (b : Logbook) : Logbook.Unmoved b (s.beginStop b).2 := by
  have hclosed : Logbook.Unmoved b (Http.Pipeline.closeGate s.pipeline.gate b).2 := by
    unfold Http.Pipeline.closeGate
    split
    · exact Logbook.Unmoved.refl b
    · exact Logbook.unmoved_emit b _
  exact hclosed

theorem registry_leaveGateTimes (n : Nat) (g : Http.Gate) (b : Logbook) :
    (Http.Pipeline.leaveGateTimes n g b).2.registry = b.registry := by
  induction n generalizing g b with
  | zero => rfl
  | succ n ih => exact ih _ _

/-- To stop the server is not to stop the registry. -/
theorem state_finishStop (graceMs : Nat) (s : Http.Server) (b : Logbook) :
    (s.finishStop graceMs b).2.2.registry.state = b.registry.state := by
  have hsaid := Logbook.unmoved_emits (Http.Server.expiry s.stopReport graceMs) b
  have hleft := registry_leaveGateTimes s.inFlight s.pipeline.gate
    (((Http.Server.expiry s.stopReport graceMs).foldl Logbook.emit b).closeListeners (s.listeners.map (·.address)))
  unfold Http.Server.finishStop Http.Server.abandon
  exact ((Logbook.unmoved_emit _ _).state.trans (congrArg Registry.state hleft)).trans hsaid.state

/-- **A shutdown begins**: it is announced. -/
theorem beginShutdown_spec (ha : r.host.book.registry.state = .active) :
    r.beginShutdown.host.acts = r.host.acts ++ [.dispatched .frameworkStopping .active] ∧
      r.beginShutdown.host.framework = r.host.framework ∧ r.beginShutdown.host.book.registry.state = .active ∧
      r.beginShutdown.shutdown = r.shutdown := by
  have hsaid := Host.moved_say r.host .info "Host shutting down" [("boot_id", .shown r.host.bootId)]
  have htold := Host.moved_dispatch (r.host.say .info "Host shutting down" [("boot_id", .shown r.host.bootId)])
    .frameworkStopping
  rw [hsaid.active ha] at htold
  have hmoved := hsaid.trans htold
  exact ⟨hmoved.acts, Host.framework_dispatch _ _,
    (unmoved_beginStop r.server _).state.trans (hmoved.active ha), rfl⟩

theorem state_stop (b : Logbook) : b.stop.registry.state = .stopped := by
  have hstop : b.stop.registry = (b.registry.stop b.machine).1 := rfl
  rw [hstop]
  obtain ⟨hstopped, hsame⟩ | halike := Registry.alike_stop b.registry b.machine
  · rw [hsame]
    exact hstopped
  · exact halike.state

/-- **A shutdown ends**: the modules are stopped, and then the registry. -/
theorem finishShutdown_spec (ha : r.host.book.registry.state = .active) {run : Running}
    (hrun : r.host.framework.running = some run)
    (hshutdown : r.shutdown = { actions := [("module-framework", .stopFramework)] }) (graceMs : Nat) :
    (r.finishShutdown graceMs).2.host.acts = r.host.acts ++ Host.stops run.started ∧
      (r.finishShutdown graceMs).2.host.framework.running = none ∧
      (r.finishShutdown graceMs).2.host.book.registry.state = .stopped := by
  let host : Host := { r.host with book := (r.server.finishStop graceMs r.host.book).2.2 }
  have hstate : host.book.registry.state = .active := (state_finishStop graceMs r.server r.host.book).trans ha
  have hsaid := Host.moved_report host (ShutdownSequence.notice "module-framework")
  obtain ⟨hmoved, hframework⟩ := Host.moved_stopFramework (hsaid.active hstate)
    (h := host.report (ShutdownSequence.notice "module-framework")) hrun
  have hstopped := hsaid.trans hmoved
  have hrest : (r.finishShutdown graceMs).2.host =
      let host := ((host.runShutdown r.shutdown).unsubscribe r.subscription).say .info "Shutdown complete"
      { host with book := host.book.stop } := rfl
  rw [hrest, hshutdown]
  refine ⟨hstopped.acts, ?_, state_stop _⟩
  exact congrArg Framework.running hframework

/-- **A host that served is brought down** like one whose boot failed after its modules came up. -/
theorem finishShutdown_down (hs : Serving h r) (h₁ : Meanwhile r r₁) (h₂ : Meanwhile r₁.beginShutdown r₂)
    (graceMs : Nat) :
    (r₂.finishShutdown graceMs).2.host.acts =
        h.acts ++ (comesUp h.framework.modules ++ goesDown h.framework.modules) ∧
      (r₂.finishShutdown graceMs).2.host.framework.isReady = false ∧
      (r₂.finishShutdown graceMs).2.host.book.registry.state = .stopped := by
  obtain ⟨run, hrun, hstarted⟩ := hs.running
  obtain ⟨hacts, hframework, -, hshutdown⟩ := beginShutdown_spec h₁.active
  have hrun₂ : r₂.host.framework.running = some run := by rw [h₂.framework, hframework, h₁.framework, hrun]
  obtain ⟨hdown, hnone, hstopped⟩ := finishShutdown_spec h₂.active hrun₂
    ((h₂.shutdown.trans hshutdown).trans (h₁.shutdown.trans hs.shutdown)) graceMs
  refine ⟨?_, ?_, hstopped⟩
  · rw [hdown, h₂.acts, hacts, h₁.acts, hs.acts, hstarted]
    simp only [goesDown, List.append_assoc, List.singleton_append]
  · unfold Framework.isReady
    rw [hnone]
    rfl

end RunningHost

namespace Host

open RunningHost (Meanwhile)

/-- **Failed boots and shutdowns bring down what came up.** For a host whose modules do not run and whose registry
is active, with any settings, hooks and modules: a port that cannot be had ends the boot before any hook ran. A
boot that fails, wherever it does, leaves the modules stopped, the registry active and off the bus, and no address
bound. And a host that boots is ready, and after a shutdown, whatever went on before it and during it, its modules
are stopped as after a failed boot, and then the registry. In both cases all modules that were activated were
deactivated once, in the reverse order, and the bus heard of it in brackets while the registry was active. -/
theorem boot_torn_down (h : Host) (hidle : h.framework.running = none) (hactive : h.book.registry.state = .active)
    (port : Option UInt16) (hooks : List Hook) :
    (∀ e, (Provisioner.resolvePort { settings := h.settings, port } h.book).1 = .error e →
      ∃ h', h.boot port hooks = .error (.provision e, h') ∧ h'.history = h.history) ∧
    (∀ e h', h.boot port hooks = .error (e, h') → CleanFailure h h') ∧
    ∀ r, h.boot port hooks = .ok r → r.host.framework.isReady = true ∧
      ∀ r₁ r₂ graceMs, Meanwhile r r₁ → Meanwhile r₁.beginShutdown r₂ →
        let h' := (r₂.finishShutdown graceMs).2.host
        h'.framework.isReady = false ∧ h'.book.registry.state = .stopped ∧
          ∃ ds, h'.acts = h.acts ++ ds ∧ Standing h.framework.modules none ds ∧ Bracketed ds := by
  obtain ⟨hfailed, hserves⟩ := boot_spec hidle hactive port hooks
  refine ⟨fun e he => boot_of_port_error he, hfailed, fun r hr => ?_⟩
  have hs := hserves r hr
  refine ⟨?_, fun r₁ r₂ graceMs h₁ h₂ => ?_⟩
  · obtain ⟨run, hrun, -⟩ := hs.running
    unfold Framework.isReady
    rw [hrun]
    rfl
  · obtain ⟨hacts, hidle', hstopped⟩ := RunningHost.finishShutdown_down hs h₁ h₂ graceMs
    exact ⟨hidle', hstopped, _, hacts, .down, Standing.down.bracketed⟩

/-- A host on an empty machine with a module: with the default hooks it boots and is shut down, and its boot fails
if a hook fails after the module was started. -/
theorem boot_torn_down_one_module :
    let now : Instant := ⟨1792231200, 0, 0⟩
    let logging : Settings.Logging := { file := { path := "host.log" } }
    let book : Logbook := { machine := { now, fileTime := now }, registry := .new logging }
    let h : Host :=
      { settings := {}
        bootId := "boot"
        book := book.init.2
        framework := { modules := [.bare "a"] } }
    let late : Hook := .custom { name := "late", priority := 1, refusal := some "no" }
    h.framework.running = none ∧ h.book.registry.state = .active ∧
      (∃ e h', h.boot none (defaultHooks ++ [late]) = .error (e, h') ∧ CleanFailure h h') ∧
      ∃ r, h.boot none defaultHooks = .ok r ∧
        (r.beginShutdown.finishShutdown 0).2.host.book.registry.state = .stopped ∧
        ∃ ds, (r.beginShutdown.finishShutdown 0).2.host.acts = h.acts ++ ds ∧ Bracketed ds := by
  intro now logging book h late
  have hactive : h.book.registry.state = .active := by decide +kernel
  obtain ⟨-, hfailed, -⟩ := boot_torn_down h rfl hactive none (defaultHooks ++ [late])
  obtain ⟨-, -, hserves⟩ := boot_torn_down h rfl hactive none defaultHooks
  have horder : Hook.schedule defaultHooks = defaultHooks := schedule_of_pairwise (by decide)
  have horder' : Hook.schedule (defaultHooks ++ [late]) = defaultHooks ++ [late] :=
    schedule_of_pairwise (by decide)
  refine ⟨rfl, hactive, ?_, ?_⟩
  · have herror : (h.boot none (defaultHooks ++ [late])).isOk = false := by
      simp only [boot_eq, startup, horder']
      decide +kernel
    cases hboot : h.boot none (defaultHooks ++ [late]) with
    | error x => exact ⟨x.1, x.2, rfl, hfailed x.1 x.2 hboot⟩
    | ok r =>
      rw [hboot] at herror
      cases herror
  · have hok : (h.boot none defaultHooks).isOk = true := by
      simp only [boot_eq, startup, horder]
      decide +kernel
    cases hboot : h.boot none defaultHooks with
    | error x =>
      rw [hboot] at hok
      cases hok
    | ok r =>
      have hserving := (boot_spec (h := h) rfl hactive none defaultHooks).2 r hboot
      obtain ⟨-, -, hbegun, -⟩ := RunningHost.beginShutdown_spec hserving.active
      obtain ⟨-, hdown⟩ := hserves r hboot
      obtain ⟨-, hstopped, ds, hacts, -, hbracketed⟩ :=
        hdown r r.beginShutdown 0 (.refl hserving.active) (.refl hbegun)
      exact ⟨r, rfl, hstopped, ds, hacts, hbracketed⟩

end Host

end ModuleHost
