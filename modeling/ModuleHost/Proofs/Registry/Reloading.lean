import Mathlib
import ModuleHost.Proofs.Logging.Plan
import ModuleHost.Proofs.Registry.Generations
import ModuleHost.Proofs.Registry.Replay
import ModuleHost.Proofs.Settings.Updates

/-!
# Reloaded sections on their way into effect

The watcher of the configuration file takes a new logging section for the one in effect as soon as it sends it.
The section waits in a channel, then the registry takes it in place of the one that it has, and only then are
outputs built from it. That last step can fail, and the others do not hear of it.

* `Registry.RunsOn`: the live tree and the live outputs are the ones that a section asks for.
* `Reloading`: the watcher, the channel and the registry. `Reloading.run`: contents of the file, sections that are
  taken off the channel, and whatever else goes on, in any order.
* `Reloading.InStep`: what holds throughout. `InStep.take`: one move.
* `Reloading.in_effect_iff`: **once the channel is empty, the registry has the section of the watcher, but it runs
  on the last one that could be built from**; and the content that was saved last is never tried again.
* `Reloading.never_tried_again`: a section that could be built from by now, and is not.
-/

namespace ModuleHost

/-- Turns that claim and record, and time that passes. -/
def Turn.isQuiet : Turn → Bool
  | .claim _ => true
  | .emit _ => true
  | .write _ _ _ _ _ => true
  | .work _ => true
  | .elapse _ => true
  | _ => false

theorem Turn.keeps_of_isQuiet {t : Turn} (h : t.isQuiet = true) : t.keeps = true ∧ t.builds = false := by
  cases t <;> first | exact ⟨rfl, rfl⟩ | cases h

namespace LoggerTree.SameLoggers

variable {t t' t'' : LoggerTree}

theorem symm (h : SameLoggers t t') : SameLoggers t' t :=
  ⟨h.rootLevel.symm, fun x => (h.logger? x).symm⟩

theorem trans (h : SameLoggers t t') (h' : SameLoggers t' t'') : SameLoggers t t'' :=
  ⟨h.rootLevel.trans h'.rootLevel, fun x => (h.logger? x).trans (h'.logger? x)⟩

/-- The same loggers with those of a claim. -/
theorem attach (h : SameLoggers t t') (c : Claim) : SameLoggers (Registry.attach t c) (Registry.attach t' c) := by
  refine ⟨?_, fun x => ?_⟩
  · rw [(Registry.rootLevel_attach t c).1, (Registry.rootLevel_attach t' c).1, h.rootLevel]
  · rw [Registry.logger?_attach, Registry.logger?_attach, h.logger? x]

end LoggerTree.SameLoggers

namespace Registry

variable {r r' r₁ : Registry} {l l' : Settings.Logging} {c : Claim} {m m' : Machine}

/-- **The registry runs on a logging section**: its live tree has the loggers of that section and of the owners,
and its live outputs are the ones that the section asks for. -/
structure RunsOn (r : Registry) (l : Settings.Logging) : Prop where
  tree : r.tree.SameLoggers (builtTree l r.generation r.owners)
  outputs : ∃ a, r.live? = some a ∧ a.plan = l.plan

/-- **Two sections that ask for the same**, as long as the owners are these. -/
def AskAlike (r : Registry) (l l' : Settings.Logging) : Prop :=
  (builtTree l r.generation r.owners).SameLoggers (builtTree l' r.generation r.owners) ∧ l.plan = l'.plan

/-- What runs on a section runs on those that ask for the same, and on no other. -/
theorem RunsOn.runsOn_iff (h : r.RunsOn l) : r.RunsOn l' ↔ r.AskAlike l l' := by
  obtain ⟨a, ha, hplan⟩ := h.outputs
  constructor
  · rintro ⟨htree, a', ha', hplan'⟩
    obtain rfl := Option.some.inj (ha.symm.trans ha')
    exact ⟨h.tree.symm.trans htree, hplan.symm.trans hplan'⟩
  · rintro ⟨htree, hsame⟩
    exact ⟨h.tree.trans htree, a, ha, hplan.trans hsame⟩

/-- Records leave the registry running on what it runs on. -/
theorem RunsOn.congr (h : r.RunsOn l) (hk : Alike r r') (hv : SameView AppenderSet.plan r r') : r'.RunsOn l := by
  obtain ⟨a, ha, hplan⟩ := h.outputs
  constructor
  · rw [hk.tree, hk.generation, hk.owners]
    exact h.tree
  · obtain ⟨g, hatt, hset⟩ := Option.bind_eq_some_iff.1 ha
    have hview := hv g
    rw [hset, Option.map_some] at hview
    obtain ⟨a', ha', hplan'⟩ := Option.map_eq_some_iff.1 hview
    refine ⟨a', ?_, hplan'.trans hplan⟩
    unfold live?
    rw [hk.tree, hatt]
    exact ha'

/-- A granted claim adds its loggers to the tree as building it anew would. -/
theorem RunsOn.claim (h : r.RunsOn l) (hr : r.claim c = .ok r') : r'.RunsOn l := by
  obtain ⟨-, rfl⟩ := claim_ok hr
  obtain ⟨a, ha, hplan⟩ := h.outputs
  constructor
  · show (attach r.tree (withoutRoot c)).SameLoggers (builtTree l r.generation (r.owners ++ [withoutRoot c]))
    rw [builtTree, List.foldl_append]
    exact h.tree.attach (withoutRoot c)
  · refine ⟨a, ?_, hplan⟩
    unfold live? at ha ⊢
    rw [(rootLevel_attach r.tree (withoutRoot c)).2]
    exact ha

/-- **A registry that was rebuilt** runs on the section that it has. -/
theorem runsOn_rebuild (h : r.OneLive) (hr : r.rebuild m = (.ok r', m')) : r'.RunsOn r.config := by
  obtain ⟨a, m₁, hbuild, hset, -, -⟩ := h.set?_rebuild hr
  obtain ⟨hb, -⟩ := rebuild_ok hr
  constructor
  · rw [hb.tree, hb.generation, hb.owners]
    exact ⟨rfl, fun _ => rfl⟩
  · refine ⟨a, ?_, AppenderSet.plan_build hbuild⟩
    unfold live?
    rw [hb.tree, (rootLevel_builtTree r.config (r.generation + 1) r.owners).2, ← hb.generation]
    exact hset

end Registry

namespace Logbook

open Registry (Alike SameView)

variable {b : Logbook} {t : Turn} {l : Settings.Logging}

theorem runsOn_say (h : b.registry.RunsOn l) (s : Severity) (text : String) (fields : List (String × FieldValue)) :
    (b.say s text fields).registry.RunsOn l :=
  h.congr (say_untouched b s text fields).toAlike (sameView_emit AppenderSet.fixed_plan b _)

/-- **A start or a reset that succeeds** leaves the registry running on the section that it had. -/
theorem runsOn_of_builds (h : b.registry.OneLive) (hb : t.builds = true) (hok : (b.turn t).1 = .ok ()) :
    (b.turn t).2.registry.RunsOn b.registry.config := by
  cases t with
  | init =>
    show b.init.2.registry.RunsOn _
    have hok : b.init.1 = .ok () := hok
    unfold init at hok ⊢
    split at hok
    · cases hok
    · rename_i r m hr
      obtain ⟨r₁, hrebuild, rfl⟩ := Registry.rebuild_of_init hr
      obtain ⟨htree, houtputs⟩ := Registry.runsOn_rebuild h hrebuild
      exact runsOn_say (b := { b with machine := m, registry := { r₁ with state := .active } })
        ⟨htree, houtputs⟩ _ _ _
  | reset =>
    show b.reset.2.registry.RunsOn _
    have hok : b.reset.1 = .ok () := hok
    unfold reset at hok ⊢
    split at hok
    · cases hok
    · rename_i r m hr
      have hruns := Registry.runsOn_rebuild h (Registry.rebuild_of_reset hr)
      exact runsOn_say (b := { b with machine := m, registry := r }) hruns _ _ _
  | _ => cases hb

theorem runsOn_claim (h : b.registry.RunsOn l) (c : Claim) : (b.claim c).2.registry.RunsOn l := by
  have hwarn : (b.warnOfRoot c).registry.RunsOn l := by
    unfold warnOfRoot
    split
    · exact runsOn_say h _ _ _
    · exact h
  show ((b.warnOfRoot c).grant c).2.registry.RunsOn l
  unfold grant
  split
  · exact hwarn
  · rename_i r hr
    exact runsOn_say (b := { b.warnOfRoot c with registry := r }) (hwarn.claim hr) _ _ _

/-- **A quiet turn** leaves the registry running on what it runs on. -/
theorem runsOn_turn (h : b.registry.RunsOn l) (ht : t.isQuiet = true) : (b.turn t).2.registry.RunsOn l := by
  have hview := AppenderSet.fixed_plan
  cases t with
  | claim c => exact runsOn_claim h c
  | emit e => exact h.congr (emit_untouched b e).toAlike (sameView_emit hview b e)
  | write g sink copies s record =>
    exact h.congr (Registry.alike_writeThrough b.registry g sink copies s record b.machine)
      (Registry.sameView_writeThrough hview b.registry g sink copies s record b.machine)
  | work g =>
    exact h.congr (Registry.alike_work b.registry g b.machine)
      (Registry.sameView_work hview b.registry g b.machine)
  | elapse m => exact h
  | _ => cases ht

end Logbook

/-! ### The watcher, the channel and the registry -/

namespace Course

open Registry (OneLive)

variable {s s' s'' : Course} {t : Turn} {l : Settings.Logging}

/-- Why the next reset fails, if it fails. -/
def resetFailure? (s : Course) : Option RegistryError :=
  match (s.book.turn .reset).1 with
  | .ok () => none
  | .error e => some e

/-- What is reported of a reset that failed. -/
def failureReport (e : RegistryError) : LogEvent :=
  ⟨.error, Settings.watcherTarget, "Logging reset failed", [("error", .shown e.message)]⟩

/-- **A reloaded section is put into effect**, or a report says why it could not be. -/
def putIntoEffect (s : Course) (l : Settings.Logging) : Course :=
  let s := s.take (.updateConfig l)
  match s.resetFailure? with
  | none => s.take .reset
  | some e => (s.take .reset).take (.emit (failureReport e))

/-- That is what the host does with what comes out of the channel. -/
theorem putIntoEffect_book (s : Course) (l : Settings.Logging) :
    (s.putIntoEffect l).book = s.book.applyUpdate l := by
  unfold putIntoEffect resetFailure? Logbook.applyUpdate
  simp only [take_book]
  have hturn : ((s.book.turn (.updateConfig l)).2.turn .reset) = (s.book.updateConfig l).reset := rfl
  rw [hturn]
  rcases hreset : (s.book.updateConfig l).reset with ⟨_ | _, b⟩
  · simp [hreset, Logbook.turn]
    rfl
  · simp [hturn, hreset]

/-- **A course that went on quietly**: the same settings and the same generation, on what it ran on. -/
structure Quietly (s s' : Course) : Prop where
  one : s'.registry.OneLive
  active : s'.registry.state = .active
  config : s'.registry.config = s.registry.config
  generation : s'.registry.generation = s.registry.generation
  installed : s'.installed = s.installed
  runsOn : ∀ l, s.registry.RunsOn l → s'.registry.RunsOn l

theorem Quietly.refl (h : s.registry.OneLive) (ha : s.registry.state = .active) : Quietly s s :=
  ⟨h, ha, rfl, rfl, rfl, fun _ => id⟩

theorem Quietly.trans (h : Quietly s s') (h' : Quietly s' s'') : Quietly s s'' :=
  ⟨h'.one, h'.active, h'.config.trans h.config, h'.generation.trans h.generation, h'.installed.trans h.installed,
    fun l hl => h'.runsOn l (h.runsOn l hl)⟩

theorem quietly_take (h : s.registry.OneLive) (ha : s.registry.state = .active) (ht : t.isQuiet = true) :
    Quietly s (s.take t) := by
  obtain ⟨hkeeps, hbuilds⟩ := Turn.keeps_of_isQuiet ht
  obtain ⟨hactive, hconfig⟩ := active_take ha hkeeps
  have hgeneration : (s.take t).registry.generation = s.registry.generation := by
    rw [(generation_take s t).1]
    simp [hbuilds]
  have hinstalled : (s.take t).installed = s.installed := by
    cases hok : (s.book.turn t).1 with
    | ok u =>
      rw [take_of_ok hok]
      simp [hbuilds]
    | error e => rw [take_of_error hok]
  refine ⟨h.step (step_take s t), hactive, hconfig, hgeneration, hinstalled, fun l hl => ?_⟩
  rw [registry, take_book]
  exact Logbook.runsOn_turn hl ht

theorem quietly_emits (h : s.registry.OneLive) (ha : s.registry.state = .active) (es : List LogEvent) :
    Quietly s (s.run (es.map .emit)) := by
  induction es generalizing s with
  | nil => exact .refl h ha
  | cons e es ih =>
    have hone := quietly_take (t := .emit e) h ha rfl
    exact hone.trans (ih hone.one hone.active)

/-- **A section that can be built from**: the registry has it, and runs on it. -/
theorem putIntoEffect_ok (h : s.registry.OneLive) (hnone : (s.take (.updateConfig l)).resetFailure? = none) :
    let s' := s.putIntoEffect l
    s'.registry.OneLive ∧ s'.registry.state = .active ∧ s'.registry.config = l ∧ s'.installed = some l ∧
      s'.registry.RunsOn l := by
  intro s'
  have hs' : s' = (s.take (.updateConfig l)).take .reset := by
    show s.putIntoEffect l = _
    unfold putIntoEffect
    simp only [hnone]
  have hupdated : (s.take (.updateConfig l)).registry.OneLive := h.step (step_take s _)
  have hok : ((s.take (.updateConfig l)).book.turn .reset).1 = .ok () := by
    unfold resetFailure? at hnone
    split at hnone
    · assumption
    · cases hnone
  obtain ⟨hactive, hconfig⟩ := active_take (t := .reset) ((Logbook.reset_spec _).2 hok).1 rfl
  rw [hs']
  refine ⟨hupdated.step (step_take _ _), hactive, hconfig, ?_, ?_⟩
  · rw [take_of_ok hok]
    rfl
  · rw [registry, take_book]
    exact Logbook.runsOn_of_builds hupdated rfl hok

/-- **A section that cannot be built from**: the registry has it, and runs on what it ran on. -/
theorem putIntoEffect_error {e : RegistryError} (h : s.registry.OneLive) (ha : s.registry.state = .active)
    (hsome : (s.take (.updateConfig l)).resetFailure? = some e) :
    let s' := s.putIntoEffect l
    s'.registry.OneLive ∧ s'.registry.state = .active ∧ s'.registry.config = l ∧ s'.installed = s.installed ∧
      ∀ l₀, s.registry.RunsOn l₀ → s'.registry.RunsOn l₀ := by
  intro s'
  have hs' : s' = ((s.take (.updateConfig l)).take .reset).take (.emit (failureReport e)) := by
    show s.putIntoEffect l = _
    unfold putIntoEffect
    simp only [hsome]
  have herror : ((s.take (.updateConfig l)).book.turn .reset).1 = .error e := by
    unfold resetFailure? at hsome
    split at hsome
    · cases hsome
    · rename_i heq
      rw [heq, Option.some.inj hsome]
  -- a reset that fails leaves nothing behind but what it did to the machine
  have hreset : ((s.take (.updateConfig l)).take .reset).registry = s.registry.updateConfig l := by
    rw [registry, take_book]
    exact ((s.take (.updateConfig l)).book.reset_spec).1 e herror
  have hquiet := quietly_take (s := (s.take (.updateConfig l)).take .reset) (t := .emit (failureReport e))
    (h.step (step_take s _) |>.step (step_take _ _)) (by rw [hreset]; exact ha) rfl
  rw [hs']
  refine ⟨hquiet.one, hquiet.active, hquiet.config.trans (by rw [hreset]; rfl), ?_, fun l₀ hl₀ => ?_⟩
  · rw [hquiet.installed, take_of_error herror]
    rfl
  · refine hquiet.runsOn l₀ ?_
    rw [hreset]
    exact ⟨hl₀.tree, hl₀.outputs⟩

end Course

/-- **A watcher, its channel, and a registry** at the other end. -/
structure Reloading where
  /-- The settings that the watcher takes for those in effect. -/
  current : Settings
  /-- The sections that were sent and not taken off the channel yet, the oldest first. -/
  channel : List Settings.Logging := []
  course : Course
  /-- Why the last reset failed, if it did. -/
  failure : Option RegistryError := none
  /-- The last content of the file that could be loaded. -/
  saved : Option Settings := none

namespace Reloading

/-- The registry that the sections are for. -/
abbrev registry (s : Reloading) : Registry := s.course.registry

/-- **What can happen** while sections are on their way. -/
inductive Move where
  /-- The file is saved, and the watcher loads it or cannot load it. -/
  | save (loaded : Except LoadError Settings)
  /-- The oldest section comes out of the channel, if there is one. -/
  | apply
  /-- Anything else that happens to the registry or to the machine. -/
  | meanwhile (t : Turn)

/-- Moves after which the registry is still active and no category was released. -/
def Move.isOrderly : Move → Bool
  | .meanwhile t => t.isQuiet
  | _ => true

/-- Before anything is saved. -/
def start (current : Settings) (course : Course) : Reloading where
  current := current
  course := course

/-- A content of the file, as the watcher sees it. -/
def save (s : Reloading) (loaded : Except LoadError Settings) : Reloading :=
  let reload := Settings.reload s.current loaded
  { s with
    current := reload.current
    channel := s.channel ++ reload.sent.toList
    course := s.course.run (reload.events.map .emit)
    saved := loaded.toOption <|> s.saved }

/-- The oldest section in the channel, as the registry gets it. -/
def apply (s : Reloading) : Reloading :=
  match s.channel with
  | [] => s
  | l :: rest =>
    { s with
      channel := rest
      course := s.course.putIntoEffect l
      failure := (s.course.take (.updateConfig l)).resetFailure? }

/-- **One move.** -/
def take (s : Reloading) : Move → Reloading
  | .save loaded => s.save loaded
  | .apply => s.apply
  | .meanwhile t => { s with course := s.course.take t }

/-- **Moves, one after another.** -/
def run (s : Reloading) (ms : List Move) : Reloading :=
  ms.foldl take s

variable {s s' : Reloading} {mv : Move} {ms : List Move} {loaded : Except LoadError Settings} {new : Settings}
  {l : Settings.Logging}

/-- **What holds throughout.** The registry is active, and runs on the section of the last reset that succeeded.
The section of the watcher is the one that was sent last, or the registry has it already. A content that was
loaded once more would not be sent. -/
structure InStep (s : Reloading) : Prop where
  one : s.registry.OneLive
  active : s.registry.state = .active
  waiting : s.channel.getLast?.getD s.registry.config = s.current.logging
  running : ∃ l, s.course.installed = some l ∧ s.registry.RunsOn l
  built : s.failure = none → s.course.installed = some s.registry.config
  saved : ∀ new, s.saved = some new → (Settings.keepSwitches s.current.logging new.logging).Same s.current.logging

/-- A registry that goes on quietly stays in step. -/
theorem InStep.quietly (h : s.InStep) {course : Course} (hq : s.course.Quietly course) :
    { s with course }.InStep := by
  obtain ⟨l, hl, hruns⟩ := h.running
  refine ⟨hq.one, hq.active, ?_, ⟨l, hq.installed.trans hl, hq.runsOn l hruns⟩, fun hnone => ?_, h.saved⟩
  · exact (congrArg s.channel.getLast?.getD hq.config).trans h.waiting
  · exact (hq.installed.trans (h.built hnone)).trans (congrArg some hq.config.symm)

theorem InStep.save (h : s.InStep) (loaded : Except LoadError Settings) : (s.save loaded).InStep := by
  have hq := Course.quietly_emits h.one h.active (Settings.reload s.current loaded).events
  have hcourse := h.quietly hq
  cases loaded with
  | error e =>
    refine ⟨hcourse.one, hcourse.active, ?_, hcourse.running, hcourse.built, h.saved⟩
    show (s.channel ++ []).getLast?.getD _ = s.current.logging
    rw [List.append_nil]
    exact hcourse.waiting
  | ok new =>
    refine ⟨hcourse.one, hcourse.active, ?_, hcourse.running, hcourse.built, ?_⟩
    · show (s.channel ++ (Settings.reload s.current (.ok new)).sent.toList).getLast?.getD _ =
        (Settings.reload s.current (.ok new)).current.logging
      rcases Settings.reload_cases s.current (.ok new) with ⟨hsent, hcurrent⟩ | ⟨l, -, hsent, hcurrent⟩
      · rw [hsent, hcurrent, Option.toList_none, List.append_nil]
        exact hcourse.waiting
      · rw [hsent, hcurrent]
        simp
    · rintro _ ⟨⟩
      exact Settings.keeps_reload rfl

theorem InStep.apply (h : s.InStep) : s.apply.InStep := by
  cases hchannel : s.channel with
  | nil =>
    have hs : s.apply = s := by
      unfold Reloading.apply
      rw [hchannel]
    rw [hs]
    exact h
  | cons l rest =>
    have hs : s.apply = { s with
        channel := rest
        course := s.course.putIntoEffect l
        failure := (s.course.take (.updateConfig l)).resetFailure? } := by
      unfold Reloading.apply
      rw [hchannel]
    -- what was sent last is still the last, or it has just been taken off
    have hwaiting : rest.getLast?.getD l = s.current.logging := by
      rw [← h.waiting, hchannel]
      cases rest with
      | nil => rfl
      | cons l' rest => rfl
    rw [hs]
    cases hfailure : (s.course.take (.updateConfig l)).resetFailure? with
    | none =>
      obtain ⟨hone, hactive, hconfig, hinstalled, hruns⟩ := Course.putIntoEffect_ok h.one hfailure
      refine ⟨hone, hactive, ?_, ⟨l, hinstalled, hruns⟩, fun _ =>
        hinstalled.trans (congrArg some hconfig.symm), h.saved⟩
      exact (congrArg rest.getLast?.getD hconfig).trans hwaiting
    | some e =>
      obtain ⟨hone, hactive, hconfig, hinstalled, hruns⟩ := Course.putIntoEffect_error h.one h.active hfailure
      obtain ⟨l₀, hl₀, hruns₀⟩ := h.running
      refine ⟨hone, hactive, ?_, ⟨l₀, hinstalled.trans hl₀, hruns l₀ hruns₀⟩, nofun, h.saved⟩
      exact (congrArg rest.getLast?.getD hconfig).trans hwaiting

/-- **One move.** -/
theorem InStep.take (h : s.InStep) (hmv : mv.isOrderly = true) : (s.take mv).InStep := by
  cases mv with
  | save loaded => exact h.save loaded
  | apply => exact h.apply
  | meanwhile t => exact h.quietly (Course.quietly_take h.one h.active hmv)

theorem InStep.run (h : s.InStep) (hms : ∀ mv ∈ ms, mv.isOrderly = true) : (s.run ms).InStep := by
  induction ms generalizing s with
  | nil => exact h
  | cons mv ms ih =>
    exact ih (h.take (hms mv List.mem_cons_self)) fun mv' hmv' => hms mv' (List.mem_cons_of_mem mv hmv')

/-- A start or a reset that succeeds, and a watcher that begins with the same section. -/
theorem inStep_start {course : Course} {t : Turn} {current : Settings} (h : course.registry.OneLive)
    (hb : t.builds = true) (hok : (course.book.turn t).1 = .ok ())
    (hsame : course.registry.config = current.logging) :
    (start current (course.take t)).InStep := by
  have hruns : (course.take t).registry.RunsOn course.registry.config := by
    rw [Course.registry, Course.take_book]
    exact Logbook.runsOn_of_builds h hb hok
  have hinstalled : (course.take t).installed = some course.registry.config := by
    rw [Course.take_of_ok hok]
    simp [hb]
  have hafter : (course.take t).registry.state = .active ∧
      (course.take t).registry.config = course.registry.config := by
    rw [Course.registry, Course.take_book]
    cases Logbook.turn_ok hok with
    | records hb' _ => rw [hb] at hb'; cases hb'
    | claim _ _ => cases hb
    | release ht _ _ => rcases ht with rfl | rfl <;> cases hb
    | build _ hr ha hu => exact ⟨hu.state.trans ha, hu.config.trans hr.config⟩
    | config _ => cases hb
    | stop _ => cases hb
  refine ⟨h.step (Course.step_take course t), hafter.1, hafter.2.trans hsame, ⟨_, hinstalled, hruns⟩,
    fun _ => ?_, ?_⟩
  · show (course.take t).installed = some (course.take t).registry.config
    rw [hinstalled, hafter.2]
  · intro new hnew
    cases hnew

/-! ### Contents that are saved again -/

/-- A move that saves nothing but the content that was loaded last, or one that cannot be loaded. -/
def Move.Repeats (s : Reloading) (mv : Move) : Prop :=
  mv.isOrderly = true ∧ ∀ new, mv = .save (.ok new) → s.saved = some new

/-- **Nothing is on its way any more**, and nothing was put into effect meanwhile. -/
structure Rests (s s' : Reloading) : Prop where
  channel : s'.channel = []
  current : s'.current = s.current
  failure : s'.failure = s.failure
  saved : s'.saved = s.saved
  course : s.course.Quietly s'.course

theorem InStep.rests_refl (h : s.InStep) (hempty : s.channel = []) : s.Rests s :=
  ⟨hempty, rfl, rfl, rfl, .refl h.one h.active⟩

theorem Rests.trans {s'' : Reloading} (h : s.Rests s') (h' : s'.Rests s'') : s.Rests s'' :=
  ⟨h'.channel, h'.current.trans h.current, h'.failure.trans h.failure, h'.saved.trans h.saved,
    h.course.trans h'.course⟩

theorem InStep.rests_take (h : s.InStep) (hempty : s.channel = []) (hmv : mv.Repeats s) : s.Rests (s.take mv) := by
  cases mv with
  | save loaded =>
    have hq := Course.quietly_emits h.one h.active (Settings.reload s.current loaded).events
    cases loaded with
    | error e =>
      refine ⟨?_, rfl, rfl, rfl, hq⟩
      show s.channel ++ [] = []
      rw [hempty]
      rfl
    | ok new =>
      have hsaved := hmv.2 new rfl
      obtain ⟨hcurrent, hsent⟩ := Settings.reload_of_keeps (h.saved new hsaved)
      refine ⟨?_, hcurrent, rfl, hsaved.symm, hq⟩
      show s.channel ++ (Settings.reload s.current (.ok new)).sent.toList = []
      rw [hempty, hsent]
      rfl
  | apply =>
    have hs : s.apply = s := by
      unfold Reloading.apply
      rw [hempty]
    show s.Rests s.apply
    rw [hs]
    exact h.rests_refl hempty
  | meanwhile t => exact ⟨hempty, rfl, rfl, rfl, Course.quietly_take h.one h.active hmv.1⟩

theorem InStep.rests_run (h : s.InStep) (hempty : s.channel = []) (hms : ∀ mv ∈ ms, mv.Repeats s) :
    s.Rests (s.run ms) := by
  induction ms generalizing s with
  | nil => exact h.rests_refl hempty
  | cons mv ms ih =>
    have hmv := hms mv List.mem_cons_self
    have hone := h.rests_take hempty hmv
    refine hone.trans (ih (h.take hmv.1) hone.channel fun mv' hmv' => ?_)
    obtain ⟨horderly, hsame⟩ := hms mv' (List.mem_cons_of_mem mv hmv')
    exact ⟨horderly, fun new hnew => hone.saved.trans (hsame new hnew)⟩

/-- **What is in effect when nothing is on its way.** A registry was started or reset with the section that the
watcher holds. Then contents of the file are saved, of which some may not be loadable; the sections that are sent
come out of the channel, and are put into effect as the host does that, if outputs can be built from them; owners
come, records are written and time passes, all in any order. Whenever the channel is empty, the registry has the
section of the watcher. What it runs on is the section of the last reset that succeeded. So it runs on the section
of the watcher if the last reset succeeded, and else only if the two sections ask for the same. Saving the last
content once more changes nothing about that, whatever has become of the disk: nothing is sent, and no outputs are
built. -/
theorem in_effect_iff (config : Settings.Logging) (m : Machine) (ts : List Turn) (t : Turn) (current : Settings)
    (ms : List Move) (hb : t.builds = true) (hok : (((Course.start config m).run ts).book.turn t).1 = .ok ())
    (hsame : ((Course.start config m).run ts).registry.config = current.logging)
    (hms : ∀ mv ∈ ms, mv.isOrderly = true) :
    let s := (start current (((Course.start config m).run ts).take t)).run ms
    (∀ l, (s.course.putIntoEffect l).book = s.course.book.applyUpdate l) ∧
    (s.channel = [] →
      s.registry.config = s.current.logging ∧
      (∃ l, s.course.installed = some l ∧ s.registry.RunsOn l ∧
        (s.registry.RunsOn s.current.logging ↔ s.registry.AskAlike l s.current.logging)) ∧
      (s.failure = none → s.registry.RunsOn s.current.logging) ∧
      ∀ ms', (∀ mv ∈ ms', mv.Repeats s) →
        let s' := s.run ms'
        s'.channel = [] ∧ s'.current = s.current ∧ s'.failure = s.failure ∧
          s'.registry.generation = s.registry.generation ∧ s'.course.installed = s.course.installed ∧
          ∀ l, s.registry.RunsOn l → s'.registry.RunsOn l) := by
  intro s
  refine ⟨fun l => s.course.putIntoEffect_book l, fun hempty => ?_⟩
  have hone := Course.oneLive_run (s := Course.start config m) (Registry.oneLive_new config) ts
  have h : s.InStep := (inStep_start hone hb hok hsame).run hms
  have hconfig : s.registry.config = s.current.logging := by
    have hwaiting := h.waiting
    rwa [hempty] at hwaiting
  obtain ⟨l, hl, hruns⟩ := h.running
  refine ⟨hconfig, ⟨l, hl, hruns, hruns.runsOn_iff⟩, fun hnone => ?_, fun ms' hms' => ?_⟩
  · rw [h.built hnone] at hl
    rw [← hconfig, Option.some.inj hl]
    exact hruns
  · have hrests := h.rests_run hempty hms'
    exact ⟨hrests.channel, hrests.current, hrests.failure, hrests.course.generation, hrests.course.installed,
      hrests.course.runsOn⟩

/-- A section whose log file would stand below another file: it is sent, and cannot be built from. The log file is
still the one from before, and so it stays. -/
theorem in_effect_iff_below_a_file :
    let config : Settings.Logging := { file := { path := "host.log" } }
    let l : Settings.Logging := { file := { path := "host.log/x" }, async := { enabled := true } }
    let m : Machine := { now := ⟨1792231200, 0, 0⟩, fileTime := ⟨1792231200, 0, 0⟩ }
    let ms : List Move := [.meanwhile (.claim ⟨"m", .ofList ["a"], .upTo .trace, false⟩),
      .save (.ok { logging := l }), .save (.error .malformed), .apply]
    (((Course.start config m).run []).book.turn .init).1 = .ok () ∧
      (∀ mv ∈ ms, mv.isOrderly = true) ∧
      ((start { logging := config } (((Course.start config m).run []).take .init)).run ms).channel = [] ∧
      ((start { logging := config } (((Course.start config m).run []).take .init)).run ms).failure =
        some (.appender .alreadyExists) ∧
      ((start { logging := config } (((Course.start config m).run []).take .init)).run ms).registry.config =
        ((start { logging := config } (((Course.start config m).run []).take .init)).run ms).current.logging := by
  intro config l m ms
  have hok : (((Course.start config m).run []).book.turn .init).1 = .ok () := by decide +kernel
  have hms : ∀ mv ∈ ms, mv.isOrderly = true := by simp [ms, Move.isOrderly, Turn.isQuiet]
  have hempty :
      ((start { logging := config } (((Course.start config m).run []).take .init)).run ms).channel = [] := by
    decide +kernel
  exact ⟨hok, hms, hempty, by decide +kernel,
    ((in_effect_iff config m [] .init { logging := config } ms rfl hok rfl hms).2 hempty).1⟩

/-- **A section that could be built from by now, and is not.** Its log file cannot be opened when it is sent,
because a file is in the way. Then the file is gone, and the same content is saved again. A reset would succeed,
but nobody calls for one: nothing is sent, and the registry does not run on the section that the watcher has. -/
theorem never_tried_again :
    let config : Settings.Logging := { file := { path := "host.log" } }
    let new : Settings := { logging := { file := { path := "logs/host.log" } } }
    let m : Machine := { now := ⟨1792231200, 0, 0⟩, fileTime := ⟨1792231200, 0, 0⟩ }
    let blocked : Machine := { m with disk := Disk.empty.place "logs" (.file []) }
    let course := (Course.start config blocked).take .init
    let s := (start { logging := config } course).run
      [.save (.ok new), .apply, .meanwhile (.elapse m), .save (.ok new), .apply]
    course.registry.state = .active ∧ course.registry.config = config ∧ s.channel = [] ∧
      s.current.logging = new.logging ∧ (s.course.book.turn .reset).1 = .ok () ∧
      s.registry.generation = 1 ∧ ¬s.registry.RunsOn new.logging := by
  intro config new m blocked course s
  have hpath : s.registry.live?.map (·.file.path) = some "host.log" := by decide +kernel
  refine ⟨by decide +kernel, by decide +kernel, by decide +kernel, by decide +kernel, by decide +kernel,
    by decide +kernel, fun h => ?_⟩
  obtain ⟨a, ha, hplan⟩ := h.outputs
  rw [ha] at hpath
  have hnew : a.file.path = "logs/host.log" := congrArg OutputPlan.path hplan
  rw [Option.map_some, hnew] at hpath
  revert hpath
  decide

end Reloading

end ModuleHost
