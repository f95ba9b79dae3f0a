import Mathlib
import ModuleHost.Proofs.Lifecycle.Round

/-!
# Modules in balance

Starts and stops of the modules of a host, in any order and any number, with whatever goes on between them. A
module may refuse to be activated at one time and not at another, and have other routes each time.

* `Host.Calls`: a history of calls.
* `FrameworkCall.Does`, `FrameworkCall.History`: what a call does to the modules, and what calls do, one after
  another.
* `Unwinds`: each module that is deactivated is the one that was activated last, of those that still are.
* `Host.Calls.history`: calls do to the modules what their history says.
* `Host.Calls.balanced`: **each activation is matched by one deactivation, in reverse order**.
-/

namespace ModuleHost

/-- **A call**, with its answer. -/
inductive FrameworkCall where
  | start (answer : Except FrameworkError Unit)
  | stop

/-- Whether a deed concerns a module, or tells the bus of one. -/
def Deed.isOfModule : Deed → Bool
  | .activated _ => true
  | .refused _ => true
  | .deactivated _ => true
  | .dispatched (.moduleStarted _) _ => true
  | .dispatched (.moduleStopped _) _ => true
  | _ => false

/-! ### Stacks of modules -/

/-- **What is done to modules that are activated and deactivated like a stack**: a module that is deactivated is
the one that was activated last, of those that still are. Below each other are those that are active before and
after. -/
inductive Unwinds : List HostModule → List Deed → List HostModule → Prop where
  | done (stack : List HostModule) : Unwinds stack [] stack
  | activated {stack stack' : List HostModule} {ds : List Deed} (m : HostModule) :
      Unwinds (m :: stack) ds stack' → Unwinds stack (.activated m :: ds) stack'
  | deactivated {stack stack' : List HostModule} {ds : List Deed} (m : HostModule) :
      Unwinds stack ds stack' → Unwinds (m :: stack) (.deactivated m :: ds) stack'
  | other {stack stack' : List HostModule} {ds : List Deed} {d : Deed} :
      d.activated? = none → d.deactivated? = none → Unwinds stack ds stack' → Unwinds stack (d :: ds) stack'

namespace Unwinds

variable {stack stack' stack'' : List HostModule} {ds ds' : List Deed}

theorem append (h : Unwinds stack ds stack') (h' : Unwinds stack' ds' stack'') :
    Unwinds stack (ds ++ ds') stack'' := by
  induction h with
  | done _ => exact h'
  | activated m _ ih => exact .activated m (ih h')
  | deactivated m _ ih => exact .deactivated m (ih h')
  | other ha hd _ ih => exact .other ha hd (ih h')

/-- **Whatever was active or is activated** is active afterwards or is deactivated, one by one. -/
theorem perm (h : Unwinds stack ds stack') :
    (stack ++ ds.filterMap Deed.activated?).Perm (stack' ++ ds.filterMap Deed.deactivated?) := by
  induction h with
  | done _ => exact .refl _
  | activated m _ ih => exact List.perm_middle.trans ih
  | deactivated m _ ih => exact (ih.cons m).trans List.perm_middle.symm
  | other ha hd _ ih =>
    rw [List.filterMap_cons_none ha, List.filterMap_cons_none hd]
    exact ih

theorem startsAt (s : RegistryState) (us stack : List HostModule) :
    Unwinds stack (Host.startsAt s us) (us.reverse ++ stack) := by
  induction us generalizing stack with
  | nil => exact .done _
  | cons m us ih =>
    rw [List.reverse_cons, List.append_assoc]
    exact .activated m (.other rfl rfl (ih (m :: stack)))

theorem stopsAt (s : RegistryState) (us stack : List HostModule) :
    Unwinds (us.reverse ++ stack) (Host.stopsAt s us) stack := by
  unfold Host.stopsAt
  induction us.reverse with
  | nil => exact .done _
  | cons m us ih => exact .deactivated m (.other rfl rfl ih)

theorem failsBy {m : HostModule} {e : FrameworkError} (hf : Host.FailsBy m e ds) : Unwinds stack ds stack := by
  cases hf with
  | refused _ => exact .other rfl rfl (.done _)
  | unrouted _ => exact .activated m (.deactivated m (.done _))

end Unwinds

/-! ### Histories -/

namespace FrameworkCall

open Host (startsAt stopsAt FailsBy)

/-- **What a call does to modules of some names**, by those that run before it, if they do, and those that run
after it. -/
inductive Does (ids : List String) :
    Option (List HostModule) → FrameworkCall → List Deed → Option (List HostModule) → Prop where
  /-- All are started, in order. -/
  | started {ms : List HostModule} (s : RegistryState) :
      ms.map (·.id) = ids → Does ids none (.start (.ok ())) (startsAt s ms) (some ms)
  /-- One cannot be started, and those before it are stopped again. -/
  | fell {us : List HostModule} {m : HostModule} {rest : List HostModule} {e : FrameworkError} {ds : List Deed}
      (s : RegistryState) : (us ++ m :: rest).map (·.id) = ids → FailsBy m e ds →
      Does ids none (.start (.error e)) (startsAt s us ++ ds ++ stopsAt s us) none
  /-- They run already. -/
  | refused (ms : List HostModule) : Does ids (some ms) (.start (.error .alreadyStarted)) [] (some ms)
  /-- They are stopped, the last one first. -/
  | stopped (s : RegistryState) (ms : List HostModule) : Does ids (some ms) .stop (stopsAt s ms) none
  /-- They do not run. -/
  | idle : Does ids none .stop [] none

/-- **What calls do**, one after another. -/
inductive History (ids : List String) (before : Option (List HostModule)) :
    List FrameworkCall → List Deed → Option (List HostModule) → Prop where
  | nil : History ids before [] [] before
  | call {cs : List FrameworkCall} {c : FrameworkCall} {ds ds' : List Deed}
      {now after : Option (List HostModule)} :
      History ids before cs ds now → Does ids now c ds' after → History ids before (cs ++ [c]) (ds ++ ds') after

/-- **The last start that was not refused succeeded**, and no stop followed. -/
def Holds (cs : List FrameworkCall) : Prop :=
  ∃ earlier later, cs = earlier ++ .start (.ok ()) :: later ∧ ∀ c ∈ later, c = .start (.error .alreadyStarted)

variable {ids : List String} {before now after : Option (List HostModule)} {cs : List FrameworkCall}
  {c : FrameworkCall} {ds : List Deed}

theorem Holds.refused (h : Holds cs) : Holds (cs ++ [.start (.error .alreadyStarted)]) := by
  obtain ⟨earlier, later, rfl, hlater⟩ := h
  refine ⟨earlier, later ++ [.start (.error .alreadyStarted)], by simp, fun c hc => ?_⟩
  obtain hc | hc := List.mem_append.1 hc
  · exact hlater c hc
  · exact List.mem_singleton.1 hc

/-- A call that is neither a start that succeeds nor one that is refused. -/
theorem not_holds_append (hok : c ≠ .start (.ok ())) (hrefused : c ≠ .start (.error .alreadyStarted)) :
    ¬ Holds (cs ++ [c]) := by
  rintro ⟨earlier, later, heq, hlater⟩
  -- the last call is the start that succeeded, or one of those that were refused after it
  obtain rfl | ⟨later, d, rfl⟩ := List.eq_nil_or_concat later
  · exact hok (List.append_singleton_inj.1 heq).2
  · rw [List.concat_eq_append, ← List.cons_append, ← List.append_assoc] at heq
    obtain rfl := (List.append_singleton_inj.1 heq).2
    exact hrefused (hlater c (by simp))

theorem Does.unwinds (h : Does ids before c ds after) :
    Unwinds (before.getD []).reverse ds (after.getD []).reverse := by
  cases h with
  | started s _ => simpa using Unwinds.startsAt s _ []
  | fell s _ hfails => exact ((Unwinds.startsAt s _ []).append (.failsBy hfails)).append (.stopsAt s _ [])
  | refused ms => exact .done _
  | stopped s ms => simpa using Unwinds.stopsAt s ms []
  | idle => exact .done _

/-- **Calls activate and deactivate modules like a stack.** -/
theorem History.unwinds (h : History ids before cs ds after) :
    Unwinds (before.getD []).reverse ds (after.getD []).reverse := by
  induction h with
  | nil => exact .done _
  | call _ hc ih => exact ih.append hc.unwinds

/-- **Modules run exactly if the last start holds.** -/
theorem History.isSome_iff (h : History ids none cs ds after) : after.isSome = true ↔ Holds cs := by
  induction h with
  | nil => exact iff_of_false Bool.false_ne_true fun ⟨_, _, heq, _⟩ => by simp at heq
  | @call cs c _ _ now after _ hc ih =>
    cases hc with
    | started s _ => exact iff_of_true rfl ⟨cs, [], rfl, List.forall_mem_nil _⟩
    | fell s _ hfails =>
      refine iff_of_false Bool.false_ne_true (not_holds_append nofun ?_)
      cases hfails <;> exact nofun
    | refused ms => exact iff_of_true rfl (ih.1 rfl).refused
    | stopped s ms => exact iff_of_false Bool.false_ne_true (not_holds_append nofun nofun)
    | idle => exact iff_of_false Bool.false_ne_true (not_holds_append nofun nofun)

end FrameworkCall

/-! ### Hosts -/

namespace Host

open FrameworkCall (Does History Holds)

/-- **What a host did with its modules**, and told the bus of them, in this order. -/
def moduleDeeds (h : Host) : List Deed :=
  h.acts.filter Deed.isOfModule

/-- The modules that run, if they do. -/
def up (h : Host) : Option (List HostModule) :=
  h.framework.running.map (·.started)

/-- **Something else that goes on**: whatever it is, it leaves those that run and the names of the modules as they
are, and does nothing with a module. How a module behaves next time may change. -/
structure Aside (h h' : Host) : Prop where
  running : h'.framework.running = h.framework.running
  ids : h'.framework.ids = h.framework.ids
  deeds : h'.moduleDeeds = h.moduleDeeds

/-- **A history of calls.** -/
inductive Calls (h : Host) : List FrameworkCall → Host → Prop where
  | nil : Calls h [] h
  | aside {cs : List FrameworkCall} {h₁ h₂ : Host} : Calls h cs h₁ → Aside h₁ h₂ → Calls h cs h₂
  | start {cs : List FrameworkCall} {h₁ : Host} :
      Calls h cs h₁ → Calls h (cs ++ [.start h₁.startFramework.1]) h₁.startFramework.2
  | stop {cs : List FrameworkCall} {h₁ : Host} : Calls h cs h₁ → Calls h (cs ++ [.stop]) h₁.stopFramework

variable {h h' : Host} {run : Running} {ds : List Deed} {cs : List FrameworkCall}

theorem up_of_running (hrun : h.framework.running = some run) : h.up = some run.started := by
  rw [up, hrun, Option.map_some]

theorem up_of_idle (hidle : h.framework.running = none) : h.up = none := by
  rw [up, hidle, Option.map_none]

theorem isSome_up (h : Host) : h.up.isSome = h.framework.isReady :=
  Option.isSome_map

/-! ### One call -/

theorem Moved.moduleDeeds (hm : Moved h h' ds) (hall : ds.all Deed.isOfModule = true) :
    h'.moduleDeeds = h.moduleDeeds ++ ds := by
  unfold Host.moduleDeeds
  rw [hm.acts, List.filter_append, List.filter_eq_self.2 (List.all_eq_true.1 hall)]

theorem isOfModule_startsAt (s : RegistryState) (us : List HostModule) :
    (startsAt s us).all Deed.isOfModule = true := by
  unfold startsAt
  rw [List.all_flatMap]
  exact List.all_eq_true.2 fun _ _ => rfl

theorem isOfModule_stopsAt (s : RegistryState) (us : List HostModule) :
    (stopsAt s us).all Deed.isOfModule = true := by
  unfold stopsAt
  rw [List.all_flatMap]
  exact List.all_eq_true.2 fun _ _ => rfl

theorem FailsBy.isOfModule {m : HostModule} {e : FrameworkError} (hf : FailsBy m e ds) :
    ds.all Deed.isOfModule = true := by
  cases hf <;> rfl

/-- **A start.** -/
theorem does_startFramework (h : Host) :
    h.startFramework.2.framework.ids = h.framework.ids ∧
      ∃ ds, h.startFramework.2.moduleDeeds = h.moduleDeeds ++ ds ∧
        Does h.framework.ids h.up (.start h.startFramework.1) ds h.startFramework.2.up := by
  cases hrun : h.framework.running with
  | some run =>
    rw [startFramework_of_running hrun]
    refine ⟨rfl, [], (List.append_nil _).symm, ?_⟩
    show Does h.framework.ids h.up (.start (.error .alreadyStarted)) [] h.up
    rw [up_of_running hrun]
    exact .refused _
  | none =>
    obtain ⟨hmodules, hall, hfall⟩ := moved_startFramework (h := h) rfl hrun
    have hids : h.startFramework.2.framework.ids = h.framework.ids := by
      rw [Framework.ids, hmodules, Framework.ids]
    refine ⟨hids, ?_⟩
    rw [up_of_idle hrun]
    cases hanswer : h.startFramework.1 with
    | ok =>
      obtain ⟨run, hrun', hstarted, hmoved⟩ := hall hanswer
      rw [up_of_running hrun', hstarted]
      exact ⟨_, hmoved.moduleDeeds (isOfModule_startsAt _ _), .started _ rfl⟩
    | error e =>
      obtain ⟨hnone, us, m, rest, ds, hms, hfails, hmoved⟩ := hfall e hanswer
      have hnames : (us ++ m :: rest).map (·.id) = h.framework.ids := by rw [Framework.ids, hms]
      rw [up_of_idle hnone]
      refine ⟨_, hmoved.moduleDeeds ?_, .fell _ hnames hfails⟩
      rw [List.all_append, List.all_append, isOfModule_startsAt, isOfModule_stopsAt, hfails.isOfModule]
      rfl

theorem stopFramework_of_idle (hidle : h.framework.running = none) : h.stopFramework = h := by
  unfold stopFramework
  rw [hidle]

/-- **A stop.** -/
theorem does_stopFramework (h : Host) :
    h.stopFramework.framework.ids = h.framework.ids ∧
      ∃ ds, h.stopFramework.moduleDeeds = h.moduleDeeds ++ ds ∧
        Does h.framework.ids h.up .stop ds h.stopFramework.up := by
  cases hrun : h.framework.running with
  | none =>
    rw [stopFramework_of_idle hrun, up_of_idle hrun]
    exact ⟨rfl, [], (List.append_nil _).symm, .idle⟩
  | some run =>
    obtain ⟨hmoved, hframework⟩ := moved_stopFramework (h := h) rfl hrun
    have hids : h.stopFramework.framework.ids = h.framework.ids := by rw [hframework, Framework.ids, Framework.ids]
    rw [up_of_running hrun, up_of_idle (h := h.stopFramework) (by rw [hframework])]
    refine ⟨hids, _, hmoved.moduleDeeds (isOfModule_stopsAt _ _), .stopped _ _⟩

/-! ### All calls -/

/-- **Calls do to the modules what their history says.** -/
theorem Calls.history (hc : Calls h cs h') :
    h'.framework.ids = h.framework.ids ∧
      ∃ ds, h'.moduleDeeds = h.moduleDeeds ++ ds ∧ History h.framework.ids h.up cs ds h'.up := by
  induction hc with
  | nil => exact ⟨rfl, [], (List.append_nil _).symm, .nil⟩
  | aside _ ha ih =>
    obtain ⟨hids, ds, hdeeds, hhistory⟩ := ih
    refine ⟨ha.ids.trans hids, ds, ha.deeds.trans hdeeds, ?_⟩
    unfold up at hhistory ⊢
    rw [ha.running]
    exact hhistory
  | @start cs h₁ _ ih =>
    obtain ⟨hids, ds, hdeeds, hhistory⟩ := ih
    obtain ⟨hids', ds', hdeeds', hdoes⟩ := does_startFramework h₁
    rw [hids] at hdoes
    refine ⟨hids'.trans hids, ds ++ ds', ?_, hhistory.call hdoes⟩
    rw [hdeeds', hdeeds, List.append_assoc]
  | @stop cs h₁ _ ih =>
    obtain ⟨hids, ds, hdeeds, hhistory⟩ := ih
    obtain ⟨hids', ds', hdeeds', hdoes⟩ := does_stopFramework h₁
    rw [hids] at hdoes
    refine ⟨hids'.trans hids, ds ++ ds', ?_, hhistory.call hdoes⟩
    rw [hdeeds', hdeeds, List.append_assoc]

/-- What a module answers to a start does not hang on the host. -/
theorem startModule_fst (m : HostModule) (run : Running) (h g : Host) :
    (h.startModule m run).1 = (g.startModule m run).1 := by
  unfold startModule
  cases m.refusal with
  | some source => rfl
  | none => cases mergeRoutes run m <;> rfl

theorem startModules_fst (ms : List HostModule) (run : Running) (h g : Host) :
    (startModules ms run h).1 = (startModules ms run g).1 := by
  induction ms generalizing run h g with
  | nil => rfl
  | cons m ms ih =>
    have hm := startModule_fst m run h g
    unfold startModules
    generalize h.startModule m run = x at hm ⊢
    generalize g.startModule m run = y at hm ⊢
    obtain ⟨r, h₁⟩ := x
    obtain ⟨r', g₁⟩ := y
    obtain rfl : r = r' := hm
    cases r with
    | error e => rfl
    | ok run => exact ih run h₁ g₁

/-- **A start of modules that do not run** is answered as on any other host with these modules. -/
theorem startFramework_congr {g : Host} (hidle : h.framework.running = none) (hidle' : g.framework.running = none)
    (hmodules : g.framework.modules = h.framework.modules) :
    g.startFramework.1 = h.startFramework.1 ∧
      g.startFramework.2.framework.running = h.startFramework.2.framework.running := by
  have hsame := startModules_fst h.framework.modules {} g.markStart h.markStart
  obtain ⟨e, h₁, heq, -, hnone, hstart⟩ | ⟨run, h₁, heq, -, hstart⟩ := startFramework_cases hidle <;>
  obtain ⟨e', g₁, heq', -, hnone', hstart'⟩ | ⟨run', g₁, heq', -, hstart'⟩ := startFramework_cases hidle' <;>
  rw [hmodules] at heq' <;> rw [heq, heq'] at hsame <;> rw [hstart, hstart']
  · exact ⟨congrArg Except.error (Except.error.inj hsame), hnone'.trans hnone.symm⟩
  · cases hsame
  · cases hsame
  · exact ⟨rfl, congrArg some (Except.ok.inj hsame)⟩

/-- **Modules are activated and deactivated in balance.** For a host whose modules do not run, and any history of
calls: what was done to the modules is the history of these calls. In it each module that was deactivated is the
one that was activated last, of those that still were; and those that still are run, in the order of their
activation. The modules run exactly if the last start that was not refused succeeded, and no stop followed. If
they do, a start is refused and changes nothing. If they do not, as many modules were deactivated as were
activated, each as often; a stop does nothing; and a start goes as on any host whose modules were never
started. -/
theorem Calls.balanced (hidle : h.framework.running = none) (hc : Calls h cs h') :
    (∃ ds, h'.moduleDeeds = h.moduleDeeds ++ ds ∧ History h.framework.ids none cs ds h'.up ∧
      Unwinds [] ds (h'.up.getD []).reverse ∧
      (h'.framework.isReady = false → (ds.filterMap Deed.activated?).Perm (ds.filterMap Deed.deactivated?))) ∧
    (h'.framework.isReady = true ↔ Holds cs) ∧
    (h'.framework.isReady = true → h'.startFramework = (.error .alreadyStarted, h')) ∧
    (h'.framework.isReady = false → h'.stopFramework = h' ∧
      ∀ g : Host, g.framework.running = none → g.framework.modules = h'.framework.modules →
        h'.startFramework.1 = g.startFramework.1 ∧
          h'.startFramework.2.framework.running = g.startFramework.2.framework.running) := by
  obtain ⟨-, ds, hdeeds, hhistory⟩ := hc.history
  rw [up_of_idle hidle] at hhistory
  have hunwinds := hhistory.unwinds
  refine ⟨⟨ds, hdeeds, hhistory, hunwinds, fun hready => ?_⟩, ?_, fun hready => ?_, fun hready => ?_⟩
  · rw [← isSome_up, Option.isSome_eq_false_iff, Option.isNone_iff_eq_none] at hready
    rw [hready] at hunwinds
    exact hunwinds.perm
  · rw [← isSome_up]
    exact hhistory.isSome_iff
  · obtain ⟨run, hrun⟩ := Option.isSome_iff_exists.1 hready
    exact startFramework_of_running hrun
  · have hnone : h'.framework.running = none := Option.isNone_iff_eq_none.1 (Option.isSome_eq_false_iff.1 hready)
    exact ⟨stopFramework_of_idle hnone, fun g hg hmodules => startFramework_congr hg hnone hmodules.symm⟩

/-- Two modules of which the second refuses at first: a start fails, another one succeeds, a third one is refused,
and the modules are stopped. -/
theorem Calls.balanced_second_time :
    let now : Instant := ⟨1792231200, 0, 0⟩
    let h : Host := {
      settings := {}
      bootId := "boot"
      book := { machine := { now, fileTime := now }, registry := .new {} }
      framework := { modules := [.bare "a", { HostModule.bare "b" with refusal := some "no" }] } }
    let cs : List FrameworkCall := [.start (.error (.activation "b" "no")), .start (.ok ()),
      .start (.error .alreadyStarted), .stop]
    h.framework.running = none ∧ ∃ h' ds, Calls h cs h' ∧ h'.moduleDeeds = h.moduleDeeds ++ ds ∧ Unwinds [] ds [] ∧
      (ds.filterMap Deed.activated?).length = 3 := by
  intro now h cs
  let h₁ := h.startFramework.2
  let h₂ : Host := { h₁ with framework := { h₁.framework with modules := [.bare "a", .bare "b"] } }
  let h₃ := h₂.startFramework.2
  have hfell : h.startFramework.1 = .error (.activation "b" "no") := by decide +kernel
  have hstarted : h₂.startFramework.1 = .ok () := by decide +kernel
  have hrefused : h₃.startFramework.1 = .error .alreadyStarted := by decide +kernel
  have hids : h₂.framework.ids = h₁.framework.ids := by decide +kernel
  have haside : Aside h₁ h₂ := ⟨rfl, hids, rfl⟩
  have hc := ((((Calls.nil (h := h)).start.aside haside).start).start).stop
  rw [hfell, hstarted, hrefused] at hc
  obtain ⟨⟨ds, hdeeds, -, hunwinds, -⟩, -⟩ := hc.balanced rfl
  have hidle : h₃.startFramework.2.stopFramework.framework.running = none :=
    Option.isNone_iff_eq_none.1 (by decide +kernel)
  have hthree : (h₃.startFramework.2.stopFramework.moduleDeeds.filterMap Deed.activated?).length = 3 := by
    decide +kernel
  rw [up_of_idle hidle] at hunwinds
  rw [hdeeds] at hthree
  exact ⟨rfl, _, ds, hc, hdeeds, hunwinds, hthree⟩

end Host

end ModuleHost
