import Mathlib
import ModuleHost.Lifecycle.Startup
import ModuleHost.Proofs.Framework.Acts

/-!
# A round of the modules

What hooks do with the modules of a host that did not run before, and how they are brought down again.

* `Host.Standing`: how far the modules are, with what was done to get there.
* `Host.Grown`: a host that came out of another one, with its modules standing somewhere.
* `Host.grown_runHooks`: hooks, in whatever order and up to whichever fails, leave the modules as they were,
  running, or started in part and stopped again.
* `Host.Bracketed`, `Host.Standing.bracketed`: **modules that do not run any more were brought down in the reverse
  order in which they came up, and the bus was told of it in brackets**.
-/

namespace ModuleHost

/-- The event that went out on the bus, if the deed is one. -/
def Deed.event? : Deed → Option HostEvent
  | .dispatched e _ => some e
  | _ => none

/-- The module that was activated, if the deed is that. -/
def Deed.activated? : Deed → Option HostModule
  | .activated m => some m
  | _ => none

def Deed.deactivated? : Deed → Option HostModule
  | .deactivated m => some m
  | _ => none

namespace Host

/-- Modules came up, and all is announced to be ready. -/
def comesUp (us : List HostModule) : List Deed :=
  starts us ++ [.dispatched .frameworkReady .active]

/-- It is announced that modules go down, and they do. -/
def goesDown (us : List HostModule) : List Deed :=
  .dispatched .frameworkStopping .active :: stops us

/-- **How far some modules are**, by what runs now and by what was done to get there. -/
inductive Standing (ms : List HostModule) : Option Running → List Deed → Prop where
  /-- Nothing was done. -/
  | idle : Standing ms none []
  /-- One could not be started, and those before it were stopped again. -/
  | fell {us : List HostModule} {m : HostModule} {rest : List HostModule} {ds : List Deed} :
      ms = us ++ m :: rest → Fails m ds → Standing ms none (starts us ++ ds ++ stops us)
  /-- They run. -/
  | up {run : Running} : run.started = ms → Standing ms (some run) (comesUp ms)
  /-- They ran. -/
  | down : Standing ms none (comesUp ms ++ goesDown ms)

/-- **In brackets**: what came up went down in the reverse order, each once. The bus was told of all that is ready
and of all that stops either both or neither, after the last module started and before the first one stopped. And
whatever the bus was told, logging was active. -/
structure Bracketed (ds : List Deed) : Prop where
  undone : ds.filterMap Deed.deactivated? = (ds.filterMap Deed.activated?).reverse
  events : ∃ (ids : List String) (between : List HostEvent),
    (between = [] ∨ between = [.frameworkReady, .frameworkStopping]) ∧
    ds.filterMap Deed.event? = ids.map .moduleStarted ++ between ++ ids.reverse.map .moduleStopped
  logged : ∀ e s, .dispatched e s ∈ ds → s = .active

/-! ### Brackets -/

theorem activated_starts (us : List HostModule) : (starts us).filterMap Deed.activated? = us := by
  induction us with
  | nil => rfl
  | cons m us ih => exact congrArg (m :: ·) ih

theorem deactivated_starts (us : List HostModule) : (starts us).filterMap Deed.deactivated? = [] := by
  induction us with
  | nil => rfl
  | cons m us ih => exact ih

theorem event_starts (us : List HostModule) :
    (starts us).filterMap Deed.event? = (us.map (·.id)).map .moduleStarted := by
  induction us with
  | nil => rfl
  | cons m us ih => exact congrArg (.moduleStarted m.id :: ·) ih

theorem activated_stops (us : List HostModule) : (stops us).filterMap Deed.activated? = [] := by
  unfold stops
  induction us.reverse with
  | nil => rfl
  | cons m us ih => exact ih

theorem deactivated_stops (us : List HostModule) : (stops us).filterMap Deed.deactivated? = us.reverse := by
  unfold stops
  induction us.reverse with
  | nil => rfl
  | cons m us ih => exact congrArg (m :: ·) ih

theorem event_stops (us : List HostModule) :
    (stops us).filterMap Deed.event? = (us.map (·.id)).reverse.map .moduleStopped := by
  unfold stops
  rw [← List.map_reverse]
  induction us.reverse with
  | nil => rfl
  | cons m us ih => exact congrArg (.moduleStopped m.id :: ·) ih

theorem logged_starts {us : List HostModule} {e : HostEvent} {s : RegistryState}
    (h : .dispatched e s ∈ starts us) :
    s = .active := by
  obtain ⟨m, -, hm⟩ := List.mem_flatMap.1 h
  obtain hm | hm := List.mem_pair.1 hm
  · cases hm
  · cases hm
    rfl

theorem logged_stops {us : List HostModule} {e : HostEvent} {s : RegistryState} (h : .dispatched e s ∈ stops us) :
    s = .active := by
  obtain ⟨m, -, hm⟩ := List.mem_flatMap.1 h
  obtain hm | hm := List.mem_pair.1 hm
  · cases hm
  · cases hm
    rfl

/-- Between the starts and the stops of the same modules, something that is in brackets itself. -/
theorem Bracketed.around {us : List HostModule} {ds : List Deed}
    (hundone : ds.filterMap Deed.deactivated? = (ds.filterMap Deed.activated?).reverse)
    (hevents : ds.filterMap Deed.event? = [] ∨ ds.filterMap Deed.event? = [.frameworkReady, .frameworkStopping])
    (hlogged : ∀ e s, .dispatched e s ∈ ds → s = .active) : Bracketed (starts us ++ ds ++ stops us) := by
  refine ⟨?_, ⟨us.map (·.id), ds.filterMap Deed.event?, hevents, ?_⟩, fun e s hmem => ?_⟩
  · simp only [List.filterMap_append, deactivated_starts, deactivated_stops, activated_starts,
      activated_stops, hundone, List.nil_append, List.append_nil, List.reverse_append]
  · simp only [List.filterMap_append, event_starts, event_stops]
  · simp only [List.mem_append] at hmem
    obtain (hmem | hmem) | hmem := hmem
    · exact logged_starts hmem
    · exact hlogged e s hmem
    · exact logged_stops hmem

/-- **Modules that do not run any more** came up and went down in brackets. -/
theorem Standing.bracketed {ms : List HostModule} {ds : List Deed} (h : Standing ms none ds) : Bracketed ds := by
  cases h with
  | idle => exact ⟨rfl, ⟨[], [], Or.inl rfl, rfl⟩, fun _ _ hmem => (List.not_mem_nil hmem).elim⟩
  | fell _ hfails =>
    cases hfails with
    | refused => exact Bracketed.around rfl (Or.inl rfl) fun e s hmem => by simp at hmem
    | unrouted => exact Bracketed.around rfl (Or.inl rfl) fun e s hmem => by simp at hmem
  | down =>
    have hround : comesUp ms ++ goesDown ms =
        starts ms ++ [.dispatched .frameworkReady .active, .dispatched .frameworkStopping .active] ++
          stops ms := by
      simp only [comesUp, goesDown, List.append_assoc, List.cons_append, List.nil_append]
    rw [hround]
    refine Bracketed.around rfl (Or.inr rfl) fun e s hmem => ?_
    obtain hmem | hmem := List.mem_pair.1 hmem <;> (cases hmem; rfl)

/-! ### Hosts with modules -/

/-- **A host that came out of another one**, with the same modules. -/
structure Grown (h h' : Host) (ds : List Deed) : Prop where
  moved : Moved h h' ds
  modules : h'.framework.modules = h.framework.modules
  standing : Standing h.framework.modules h'.framework.running ds

variable {h h' h'' : Host} {ds : List Deed}

/-- What is done without the modules and without the bus. -/
theorem Grown.idle (hg : Grown h h' ds) (hm : Moved h' h'' []) (hf : h''.framework = h'.framework) :
    Grown h h'' ds :=
  ⟨hg.moved.idle hm, by rw [hf]; exact hg.modules, by rw [hf]; exact hg.standing⟩

theorem Grown.active (hg : Grown h h' ds) (ha : h.book.registry.state = .active) :
    h'.book.registry.state = .active :=
  hg.moved.active ha

/-- **The modules come up**, or they are brought down again, or they ran already. -/
theorem grown_bringUpModules (ha : h.book.registry.state = .active) (hg : Grown h h' ds)
    (hopen : h'.framework.running = none → ds = []) :
    ∃ ds', Grown h h'.bringUpModules.2 ds' ∧
      (h'.bringUpModules.1 = .ok () → h'.bringUpModules.2.framework.running ≠ none) := by
  unfold bringUpModules
  cases hrun : h'.framework.running with
  | some run =>
    rw [startFramework_of_running hrun]
    exact ⟨ds, hg, nofun⟩
  | none =>
    obtain rfl := hopen hrun
    obtain ⟨hmodules, hall, hfall⟩ := moved_startFramework (hg.active ha) hrun
    split
    · rename_i e h₁ heq
      rw [heq] at hmodules hfall
      obtain ⟨hnone, us, m, rest, mid, hms, hfails, hmoved⟩ := hfall e rfl
      refine ⟨_, ⟨hg.moved.trans hmoved, hmodules.trans hg.modules, ?_⟩, nofun⟩
      rw [hnone]
      exact .fell (hg.modules.symm.trans hms) hfails.fails
    · rename_i h₁ heq
      rw [heq] at hmodules hall
      obtain ⟨run, hrun', hstarted, hmoved⟩ := hall rfl
      have hup := hg.moved.trans hmoved
      have htold := moved_dispatch h₁ .frameworkReady
      rw [hup.active ha] at htold
      have hstanding : Standing h.framework.modules (some run) (comesUp h.framework.modules) :=
        .up (hstarted.trans hg.modules)
      refine ⟨comesUp h.framework.modules, ⟨?_, ?_, ?_⟩, fun _ => ?_⟩
      · rw [← hg.modules]
        exact hup.trans htold
      · rw [framework_dispatch]
        exact hmodules.trans hg.modules
      · rw [framework_dispatch, hrun']
        exact hstanding
      · rw [framework_dispatch, hrun']
        exact Option.some_ne_none run

/-! ### Hooks -/

/-- Hooks that are in order are run in this order. -/
theorem schedule_of_pairwise {α : Type} [StartupHook α] {hooks : List α}
    (ho : hooks.Pairwise (fun a b => Hook.goesBefore a b = true)) : Hook.schedule hooks = hooks :=
  List.mergeSort_of_pairwise ho

theorem moved_sayHook (h : Host) (hook : Hook) (s : Severity) (message : String)
    (more : List (String × FieldValue)) : Moved h (h.sayHook hook s message more) [] :=
  moved_report h _

theorem moved_count (h : Host) (f : Meters → Meters) : Moved h { h with book := h.book.count f } [] :=
  moved_book h ⟨⟨rfl, rfl, rfl⟩, rfl⟩

theorem moved_setAttribute (h : Host) (key value : String) : Moved h (h.setAttribute key value) [] :=
  ⟨(List.append_nil _).symm, rfl, Logbook.Unmoved.refl _⟩

theorem moved_setAttributes (kvs : List (String × String)) : ∀ h : Host,
    Moved h (kvs.foldl (fun h (k, v) => h.setAttribute k v) h) [] ∧
      (kvs.foldl (fun h (k, v) => h.setAttribute k v) h).framework = h.framework := by
  induction kvs with
  | nil => exact fun h => ⟨Moved.refl h, rfl⟩
  | cons kv kvs ih =>
    intro h
    obtain ⟨hmoved, hframework⟩ := ih (h.setAttribute kv.1 kv.2)
    exact ⟨(moved_setAttribute h kv.1 kv.2).trans hmoved, hframework⟩

theorem moved_looks (ks : List String) : ∀ h : Host,
    Moved h (ks.foldl (fun h k => h.note (.looked k (h.attributes.get? k))) h) [] ∧
      (ks.foldl (fun h k => h.note (.looked k (h.attributes.get? k))) h).framework = h.framework := by
  induction ks with
  | nil => exact fun h => ⟨Moved.refl h, rfl⟩
  | cons k ks ih =>
    intro h
    obtain ⟨hmoved, hframework⟩ := ih (h.note (.looked k (h.attributes.get? k)))
    exact ⟨(moved_record_nil h rfl).trans hmoved, hframework⟩

/-- A hook of a kind of its own has nothing to do with the modules. -/
theorem moved_runCustom (h : Host) (c : CustomHook) :
    Moved h (h.runCustom c).2 [] ∧ (h.runCustom c).2.framework = h.framework := by
  obtain ⟨hsets, hframework₁⟩ := moved_setAttributes c.sets (h.note (.hook c.name))
  obtain ⟨hlooks, hframework₂⟩ := moved_looks c.reads
    (c.sets.foldl (fun h (k, v) => h.setAttribute k v) (h.note (.hook c.name)))
  have hnoted := moved_record_nil h (d := .noted (.hook c.name)) rfl
  have hmoved := (hnoted.trans hsets).trans hlooks
  have hframework := hframework₂.trans hframework₁
  unfold runCustom
  cases c.refusal <;> exact ⟨hmoved, hframework⟩

/-- Making a directory has nothing to do with the modules. -/
theorem moved_prepareModulesRoot (h : Host) :
    Moved h h.prepareModulesRoot.2 [] ∧ h.prepareModulesRoot.2.framework = h.framework := by
  let disk := (Disk.createDirs h.settings.modules.rootDir h.book.machine.disk).2
  have hmade : Moved h { h with book := { h.book with machine := { h.book.machine with disk } } } [] :=
    moved_book h ⟨⟨rfl, rfl, rfl⟩, rfl⟩
  unfold prepareModulesRoot
  simp only
  split
  · exact ⟨hmade, rfl⟩
  · exact ⟨(hmade.trans (moved_setAttribute _ _ _)).trans (moved_report _ _), rfl⟩

/-- **What a hook does**, whichever it is. If it succeeds and no modules run, none were touched. -/
theorem grown_perform (ha : h.book.registry.state = .active) (hg : Grown h h' ds)
    (hopen : h'.framework.running = none → ds = []) (hook : Hook) :
    ∃ ds', Grown h (StartupHook.perform h' hook).2 ds' ∧
      ((StartupHook.perform h' hook).1 = .ok () → (StartupHook.perform h' hook).2.framework.running = none →
        ds' = []) := by
  cases hook with
  | modulesRoot =>
    obtain ⟨hmoved, hframework⟩ := moved_prepareModulesRoot h'
    exact ⟨ds, hg.idle hmoved hframework, fun _ hnone => hopen (by rw [← hframework]; exact hnone)⟩
  | moduleFramework =>
    obtain ⟨ds', hg', hup⟩ := grown_bringUpModules ha hg hopen
    exact ⟨ds', hg', fun hok hnone => absurd hnone (hup hok)⟩
  | custom c =>
    obtain ⟨hmoved, hframework⟩ := moved_runCustom h' c
    exact ⟨ds, hg.idle hmoved hframework, fun _ hnone => hopen (by rw [← hframework]; exact hnone)⟩

theorem grown_runHook (ha : h.book.registry.state = .active) (hg : Grown h h' ds)
    (hopen : h'.framework.running = none → ds = []) (hook : Hook) :
    ∃ ds', Grown h (h'.runHook hook).2 ds' ∧
      ((h'.runHook hook).1 = .ok () → (h'.runHook hook).2.framework.running = none → ds' = []) := by
  have hcalled : Grown h (h'.callHook hook) ds :=
    hg.idle ((moved_sayHook h' hook _ _ _).trans (moved_record_nil _ rfl)) rfl
  obtain ⟨ds', hg', hdone⟩ := grown_perform ha hcalled hopen hook
  unfold runHook
  split
  · rename_i source h₁ heq
    rw [heq] at hg'
    exact ⟨ds', hg'.idle (moved_sayHook h₁ hook _ _ _) rfl, nofun⟩
  · rename_i h₁ heq
    rw [heq] at hg' hdone
    have hsaid' := moved_sayHook h₁ hook .debug "Startup hook completed" [("elapsed_ms", .ofNat 0)]
    have hcounted := hsaid'.trans (moved_count _ (·.countHook hook.name))
    exact ⟨ds', hg'.idle hcounted rfl, fun _ hnone => hdone rfl hnone⟩

/-- **Hooks, one after another**, up to the first that fails. -/
theorem grown_runHooks (ha : h.book.registry.state = .active) (hooks : List Hook) (executed : List String)
    (hg : Grown h h' ds) (hopen : h'.framework.running = none → ds = []) :
    ∃ ds', Grown h (runHooks hooks executed h').2 ds' := by
  induction hooks generalizing executed h' ds with
  | nil => exact ⟨ds, hg⟩
  | cons hook hooks ih =>
    unfold runHooks
    split
    · -- the name was executed already
      exact ih _ (hg.idle (moved_sayHook h' hook _ _ _) rfl) hopen
    · obtain ⟨ds', hg', hdone⟩ := grown_runHook ha hg hopen hook
      split
      · rename_i heq
        rw [heq] at hg'
        exact ⟨ds', hg'⟩
      · rename_i h₁ heq
        rw [heq] at hg' hdone
        exact ih _ hg' (hdone rfl)

/-- **All hooks.** -/
theorem grown_startup (ha : h.book.registry.state = .active) (hg : Grown h h' [])
    (hooks : List Hook) : ∃ ds, Grown h (h'.startup hooks).2 ds := by
  unfold startup
  split
  · exact ⟨[], hg.idle (moved_report _ _) rfl⟩
  · obtain ⟨ds, hg'⟩ := grown_runHooks ha (Hook.schedule hooks) [] hg fun _ => rfl
    split
    · rename_i heq
      rw [heq] at hg'
      exact ⟨ds, hg'⟩
    · rename_i heq
      rw [heq] at hg'
      exact ⟨ds, hg'⟩

/-! ### Down again -/

/-- **Modules that run are brought down.** -/
theorem grown_stop (ha : h.book.registry.state = .active) (hg : Grown h h' ds) {run : Running}
    (hrun : h'.framework.running = some run) :
    Grown h (h'.dispatch .frameworkStopping).stopFramework (ds ++ goesDown run.started) ∧
      (h'.dispatch .frameworkStopping).stopFramework.framework.running = none := by
  have htold := moved_dispatch h' .frameworkStopping
  rw [hg.active ha] at htold
  have hrun' : (h'.dispatch .frameworkStopping).framework.running = some run := by
    rw [framework_dispatch]
    exact hrun
  obtain ⟨hmoved, hframework⟩ := moved_stopFramework (htold.active (hg.active ha)) hrun'
  have hstanding := hg.standing
  rw [hrun] at hstanding
  refine ⟨⟨hg.moved.trans (htold.trans hmoved), ?_, ?_⟩, ?_⟩
  · rw [hframework, framework_dispatch]
    exact hg.modules
  · rw [hframework]
    cases hstanding with
    | up hstarted =>
      rw [hstarted]
      exact .down
  · rw [hframework]

end Host

end ModuleHost
