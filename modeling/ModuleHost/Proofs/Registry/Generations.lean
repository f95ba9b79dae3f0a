import Mathlib
import ModuleHost.Proofs.Logging.Lifespan
import ModuleHost.Proofs.Registry.Claims
import ModuleHost.Proofs.Registry.Tree

/-!
# One live generation of outputs

Outputs are built generation after generation, and all of them can be written to for ever by whoever has them.
Only those of the last generation are live, and only while the registry is active.

* `Registry.Ongoing`: the same outputs after records, with those that are retired as they were.
* `Registry.OneLive`: every generation was built once, the last one runs while the registry is active, and all
  others are retired.
* `Registry.OneLive.init`, `Registry.OneLive.reset`, `Registry.OneLive.stop`: what each call that builds or stops
  outputs does to that.
* `Course.one_live_generation`: **it holds after any course**; retired outputs never change anything again, and
  what outputs held back was handed over when they were retired.
-/

namespace ModuleHost

namespace Registry

variable {r r' r'' : Registry} {a a' : AppenderSet} {g : Nat} {m m' : Machine}

/-! ### The same outputs -/

/-- **The same outputs, further on.** Running ones still run, and retired ones are as they were. -/
structure Ongoing (r r' : Registry) : Prop where
  state : r'.state = r.state
  generation : r'.generation = r.generation
  attached : r'.tree.attached = r.tree.attached
  built : r'.sets.map (·.generation) = r.sets.map (·.generation)
  sets : ∀ g a, r.set? g = some a →
    ∃ a', r'.set? g = some a' ∧ (a.Running → a'.Running) ∧ (a.Retired → a' = a)

theorem Ongoing.of_sets (hs : r'.state = r.state) (hg : r'.generation = r.generation)
    (ht : r'.tree.attached = r.tree.attached) (h : r'.sets = r.sets) : Ongoing r r' := by
  refine ⟨hs, hg, ht, by rw [h], fun g a ha => ⟨a, ?_, id, fun _ => rfl⟩⟩
  unfold set? at ha ⊢
  rw [h]
  exact ha

theorem Ongoing.refl (r : Registry) : Ongoing r r := .of_sets rfl rfl rfl rfl

theorem Ongoing.trans (h : Ongoing r r') (h' : Ongoing r' r'') : Ongoing r r'' := by
  refine ⟨h'.state.trans h.state, h'.generation.trans h.generation, h'.attached.trans h.attached,
    h'.built.trans h.built, fun g a ha => ?_⟩
  obtain ⟨a', ha', hrun, hret⟩ := h.sets g a ha
  obtain ⟨a'', ha'', hrun', hret'⟩ := h'.sets g a' ha'
  refine ⟨a'', ha'', fun hr => hrun' (hrun hr), fun hr => ?_⟩
  have heq := hret hr
  subst heq
  exact hret' hr

/-- Outputs are built in no place by putting others in theirs. -/
theorem built_putSet (r : Registry) (a : AppenderSet) :
    (r.putSet a).sets.map (·.generation) = r.sets.map (·.generation) := by
  unfold putSet
  rw [List.map_map]
  refine List.map_congr_left (fun b _ => ?_)
  simp only [Function.comp_apply]
  split
  · rename_i h
    exact (beq_iff_eq.1 h).symm
  · rfl

theorem ongoing_putSet (ha : r.set? g = some a) (h : a.Serves m a' m') : Ongoing r (r.putSet a') := by
  refine ⟨rfl, rfl, rfl, built_putSet r a', fun g' b hb => ?_⟩
  have hg : a'.generation = g := h.generation.trans (generation_of_set? ha)
  rw [set?_putSet, hg]
  by_cases hgg : g = g'
  · subst hgg
    obtain rfl : a = b := Option.some.inj (ha.symm.trans hb)
    rw [if_pos rfl, ha]
    exact ⟨a', rfl, h.running, fun hr => (h.retired hr).1⟩
  · rw [if_neg hgg]
    exact ⟨b, hb, id, fun _ => rfl⟩

/-- **A record by way of a generation.** -/
theorem ongoing_writeThrough (r : Registry) (g : Nat) (sink : Sink) (copies : Nat) (s : Severity)
    (record : Bytes) (m : Machine) : Ongoing r (r.writeThrough g sink copies s record m).2.1 := by
  unfold writeThrough
  split
  · exact Ongoing.refl r
  · rename_i a ha
    exact ongoing_putSet ha (AppenderSet.serves_writeCopies sink s record copies a m)

/-- **The writer behind the queue** of a generation. -/
theorem ongoing_work (r : Registry) (g : Nat) (m : Machine) : Ongoing r (r.work g m).1 := by
  unfold work
  split
  · exact Ongoing.refl r
  · rename_i a ha
    exact ongoing_putSet ha (AppenderSet.serves_work a m)

theorem ongoing_publish (r : Registry) (sink : Sink) (target : String) (s : Severity) (record : Bytes)
    (m : Machine) : Ongoing r (r.publish sink target s record m).1 := by
  rcases r.publish_cases sink target s record m with h | ⟨g, copies, h⟩
  · rw [h]
    exact Ongoing.refl r
  · rw [h]
    exact (ongoing_writeThrough r g sink copies s record m).trans (ongoing_work _ g _)

theorem ongoing_claim {c : Claim} (h : r.claim c = .ok r') : Ongoing r r' := by
  obtain ⟨-, rfl⟩ := claim_ok h
  exact .of_sets rfl rfl (rootLevel_attach _ _).2 rfl

theorem ongoing_release {owner : String} (h : r.release owner = .ok r') : Ongoing r r' := by
  obtain ⟨-, ⟨-, rfl⟩ | ⟨c, -, rfl⟩⟩ := release_ok h
  · exact Ongoing.refl _
  · exact .of_sets rfl rfl (rootLevel_detach _ _).2 rfl

/-! ### One of them live -/

/-- **One live generation.** Every generation up to the last was built, once. The last one is live if the
registry is active, and else none is. The live outputs run, and all others are retired. -/
structure OneLive (r : Registry) : Prop where
  built : r.sets.map (·.generation) = (List.range' 1 r.generation).reverse
  attached : r.tree.attached = if r.state = .active then some r.generation else none
  fresh : r.state = .uninitialized → r.generation = 0
  begun : r.state = .active → 0 < r.generation
  running : ∀ g a, r.set? g = some a → r.tree.attached = some g → a.Running
  retired : ∀ g a, r.set? g = some a → r.tree.attached ≠ some g → a.Retired

namespace OneLive

theorem congr (h : OneLive r) (hg : Ongoing r r') : OneLive r' := by
  -- what the outputs of a generation were before
  have hback : ∀ g a', r'.set? g = some a' → ∃ a, r.set? g = some a := by
    intro g a' ha'
    have hmem : g ∈ r'.sets.map (·.generation) :=
      List.mem_map.2 ⟨a', List.mem_of_find?_eq_some ha', generation_of_set? ha'⟩
    rw [hg.built] at hmem
    obtain ⟨b, hb, hbg⟩ := List.mem_map.1 hmem
    exact Option.isSome_iff_exists.1 (List.find?_isSome.2 ⟨b, hb, beq_iff_eq.2 hbg⟩)
  constructor
  case built =>
    rw [hg.built, hg.generation]
    exact h.built
  case attached =>
    rw [hg.attached, hg.state, hg.generation]
    exact h.attached
  case fresh =>
    rw [hg.state, hg.generation]
    exact h.fresh
  case begun =>
    rw [hg.state, hg.generation]
    exact h.begun
  case running =>
    intro g a' ha' hatt
    obtain ⟨a, ha⟩ := hback g a' ha'
    obtain ⟨a'', ha'', hrun, -⟩ := hg.sets g a ha
    obtain rfl := Option.some.inj (ha'.symm.trans ha'')
    exact hrun (h.running g a ha (hg.attached.symm.trans hatt))
  case retired =>
    intro g a' ha' hatt
    obtain ⟨a, ha⟩ := hback g a' ha'
    obtain ⟨a'', ha'', -, hret⟩ := hg.sets g a ha
    obtain rfl := Option.some.inj (ha'.symm.trans ha'')
    have hr := h.retired g a ha (fun hatt' => hatt (hg.attached.trans hatt'))
    rw [hret hr]
    exact hr

theorem nodup (h : OneLive r) : (r.sets.map (·.generation)).Nodup := by
  rw [h.built]
  exact List.nodup_reverse.2 List.nodup_range'

/-- **Which outputs there are**: those of the generations up to the last. -/
theorem exists_set?_iff (h : OneLive r) : (∃ a, r.set? g = some a) ↔ 1 ≤ g ∧ g ≤ r.generation := by
  have hmem : (∃ a, r.set? g = some a) ↔ g ∈ r.sets.map (·.generation) := by
    rw [← Option.isSome_iff_exists, List.mem_map]
    unfold set?
    rw [List.find?_isSome]
    simp
  rw [hmem, h.built, List.mem_reverse, List.mem_range'_1]
  omega

/-- Only the last generation can be live. -/
theorem eq_of_attached (h : OneLive r) (hatt : r.tree.attached = some g) :
    r.state = .active ∧ g = r.generation := by
  rw [h.attached] at hatt
  split at hatt
  · rename_i hs
    exact ⟨hs, (Option.some.inj hatt).symm⟩
  · cases hatt

theorem active_iff (h : OneLive r) : r.state = .active ↔ r.tree.attached.isSome = true := by
  rw [h.attached]
  split <;> simp_all

/-- The live outputs run. -/
theorem exists_live (h : OneLive r) (hatt : r.tree.attached = some g) :
    ∃ a, r.live? = some a ∧ a.generation = g ∧ a.Running := by
  obtain ⟨hs, rfl⟩ := h.eq_of_attached hatt
  obtain ⟨a, ha⟩ := h.exists_set?_iff.2 ⟨h.begun hs, le_refl _⟩
  refine ⟨a, ?_, generation_of_set? ha, h.running _ a ha hatt⟩
  unfold live?
  rw [hatt]
  exact ha

/-- Putting outputs where they are already changes nothing. -/
theorem putSet_self (h : OneLive r) (ha : r.set? g = some a) : r.putSet a = r := by
  have hmap : r.sets.map (fun b => if b.generation == a.generation then a else b) = r.sets := by
    refine (List.map_congr_left (fun b hb => ?_)).trans (List.map_id _)
    split
    · rename_i hba
      exact List.inj_on_of_nodup_map h.nodup (List.mem_of_find?_eq_some ha) hb (beq_iff_eq.1 hba).symm
    · rfl
  unfold putSet
  rw [hmap]

end OneLive

theorem oneLive_new (config : Settings.Logging) : OneLive (Registry.new config) := by
  refine ⟨rfl, rfl, fun _ => rfl, fun h => (by cases h), ?_, ?_⟩ <;> (intro g a ha; cases ha)

/-! ### Building and stopping -/

/-- Stopping outputs is seen in their generation only. -/
theorem set?_stopSet (r : Registry) (live : Option Nat) (m : Machine) (g : Nat) :
    (r.stopSet live m).1.set? g =
      if live = some g then (r.set? g).map (fun a => (a.stop m).1) else r.set? g := by
  unfold stopSet
  cases live with
  | none => simp
  | some l =>
    by_cases hl : l = g
    · subst hl
      cases ha : r.set? l with
      | none => simp [ha]
      | some a =>
        have hg : (a.stop m).1.generation = l := (AppenderSet.generation_stop a m).trans (generation_of_set? ha)
        simp [ha, set?_putSet, hg]
    · cases ha : r.set? l with
      | none => simp [ha, hl]
      | some a =>
        have hg : (a.stop m).1.generation = l := (AppenderSet.generation_stop a m).trans (generation_of_set? ha)
        simp [ha, set?_putSet, hg, hl]

theorem built_stopSet (r : Registry) (live : Option Nat) (m : Machine) :
    (r.stopSet live m).1.sets.map (·.generation) = r.sets.map (·.generation) := by
  unfold stopSet
  split
  · rfl
  · exact built_putSet r _

/-- What is stopped with the live outputs: the machine they leave behind. -/
theorem stopSet_live {live : Option Nat} (ha : live.bind r.set? = some a) :
    (r.stopSet live m).2 = (a.stop m).2 := by
  unfold stopSet
  rw [ha]

/-- The registry with the next outputs in use, before those in use so far are stopped. -/
def opened (r : Registry) (a : AppenderSet) : Registry :=
  { r with
    tree := builtTree r.config (r.generation + 1) r.owners
    generation := r.generation + 1
    sets := a :: r.sets }

/-- The order of a rebuild: the next outputs are opened first, and then the live ones are stopped. -/
theorem rebuild_eq (h : r.rebuild m = (.ok r', m')) :
    ∃ a m₁, AppenderSet.build r.config (r.generation + 1) m = (.ok a, m₁) ∧
      (r.opened a).stopSet r.tree.attached m₁ = (r', m') := by
  unfold rebuild at h
  split at h
  · cases h
  rename_i a m₁ hbuild
  refine ⟨a, m₁, hbuild, ?_⟩
  cases h
  rfl

/-- A start is a rebuild, if it succeeds. -/
theorem rebuild_of_init (h : r.init m = (.ok r', m')) :
    ∃ r₁, r.rebuild m = (.ok r₁, m') ∧ r' = { r₁ with state := .active } := by
  unfold init at h
  split at h
  · cases h
  split at h
  · cases h
  · rename_i r₁ m₁ hrebuild
    cases h
    exact ⟨r₁, hrebuild, rfl⟩

/-- A reset is a rebuild of an active registry. -/
theorem rebuild_of_reset (h : r.reset m = (.ok r', m')) : r.rebuild m = (.ok r', m') := by
  have hs := (reset_ok h).1
  unfold reset ensureActive at h
  rw [if_pos hs] at h
  exact h

/-- The outputs of each generation once the next ones are in use. -/
theorem set?_opened (ha : a.generation = g) (g' : Nat) :
    (r.opened a).set? g' = if g' = g then some a else r.set? g' := by
  unfold set? opened
  rw [List.find?_cons, ha]
  by_cases h : g' = g
  · simp [h]
  · have hg : (g == g') = false := beq_eq_false_iff_ne.2 (Ne.symm h)
    rw [hg, if_neg h]

namespace OneLive

/-- **What a rebuild makes of the outputs**: one more generation, which runs, and all others retired. -/
theorem rebuild (h : OneLive r) (hr : r.rebuild m = (.ok r', m')) :
    r'.sets.map (·.generation) = (List.range' 1 (r.generation + 1)).reverse ∧
      ∀ g a, r'.set? g = some a → if g = r.generation + 1 then a.Running else a.Retired := by
  obtain ⟨a, m₁, hbuild, hstop⟩ := rebuild_eq hr
  have hrun := AppenderSet.running_build hbuild
  have hgen := AppenderSet.generation_build hbuild
  have hnext : r' = ((r.opened a).stopSet r.tree.attached m₁).1 := by rw [hstop]
  rw [hnext]
  constructor
  · rw [built_stopSet, opened, List.map_cons, hgen, h.built, List.range'_1_concat, List.reverse_append]
    simp [Nat.add_comm]
  · intro g b hb
    rw [set?_stopSet, set?_opened hgen] at hb
    have hlast : r.tree.attached ≠ some (r.generation + 1) := by
      intro hatt
      have := (h.eq_of_attached hatt).2
      omega
    by_cases hg : g = r.generation + 1
    · subst hg
      rw [if_neg hlast, if_pos rfl] at hb
      obtain rfl := Option.some.inj hb
      rw [if_pos rfl]
      exact hrun
    · rw [if_neg hg] at hb ⊢
      split at hb
      · rename_i hatt
        obtain ⟨c, hc, rfl⟩ := Option.map_eq_some_iff.1 hb
        exact AppenderSet.retired_stop (h.running g c hc hatt) m₁
      · rename_i hatt
        exact h.retired g b hb hatt

/-- **Outputs that were just built** are those of the last generation. If none were live, nothing else
happened. -/
theorem set?_rebuild (h : OneLive r) (hr : r.rebuild m = (.ok r', m')) :
    ∃ b m₁, AppenderSet.build r.config (r.generation + 1) m = (.ok b, m₁) ∧
      r'.set? r'.generation = some b ∧ r'.config = r.config ∧ (r.tree.attached = none → m' = m₁) := by
  obtain ⟨b, m₁, hbuild, hstop⟩ := rebuild_eq hr
  obtain ⟨hrebuilt, -⟩ := rebuild_ok hr
  refine ⟨b, m₁, hbuild, ?_, hrebuilt.config, fun hnone => ?_⟩
  · -- the outputs that are stopped are those of another generation
    have hne : r.tree.attached ≠ some (r.generation + 1) := by
      intro hatt
      have := (h.eq_of_attached hatt).2
      omega
    have hset := set?_stopSet (r.opened b) r.tree.attached m₁ (r.generation + 1)
    rw [hstop, if_neg hne, set?_opened (AppenderSet.generation_build hbuild), if_pos rfl] at hset
    rw [hrebuilt.generation]
    exact hset
  · rw [hnone] at hstop
    cases hstop
    rfl

/-- What was built and stopped is in order once the registry is active. -/
theorem of_rebuilt (h : OneLive r) {r₁ : Registry} (hr : r.rebuild m = (.ok r₁, m')) (hb : Rebuilt r r')
    (hs : r'.state = .active) (hsets : r'.sets = r₁.sets) : OneLive r' := by
  obtain ⟨hbuilt, hall⟩ := h.rebuild hr
  have hset : ∀ g, r'.set? g = r₁.set? g := fun g => by unfold set?; rw [hsets]
  have hatt : r'.tree.attached = some (r.generation + 1) := by
    rw [hb.tree]
    exact (rootLevel_builtTree _ _ _).2
  constructor
  case built =>
    rw [hsets, hb.generation]
    exact hbuilt
  case attached => rw [hatt, hs, if_pos rfl, hb.generation]
  case fresh =>
    intro hf
    rw [hs] at hf
    cases hf
  case begun =>
    intro _
    rw [hb.generation]
    exact Nat.succ_pos _
  case running =>
    intro g a ha hg
    obtain rfl := Option.some.inj (hatt.symm.trans hg)
    have hage := hall _ a ((hset _).symm.trans ha)
    rwa [if_pos rfl] at hage
  case retired =>
    intro g a ha hg
    have hne : g ≠ r.generation + 1 := fun hge => hg (by rw [hatt, hge])
    have hage := hall g a ((hset g).symm.trans ha)
    rwa [if_neg hne] at hage

/-- **A start** makes the first generation live. -/
theorem init (h : OneLive r) (hr : r.init m = (.ok r', m')) : OneLive r' := by
  obtain ⟨-, hb, hs⟩ := init_ok hr
  obtain ⟨r₁, hrebuild, rfl⟩ := rebuild_of_init hr
  exact h.of_rebuilt hrebuild hb hs rfl

/-- **A reset** makes the next generation live. -/
theorem reset (h : OneLive r) (hr : r.reset m = (.ok r', m')) : OneLive r' := by
  obtain ⟨-, hb, hs⟩ := reset_ok hr
  exact h.of_rebuilt (rebuild_of_reset hr) hb hs rfl

/-- **A stop** leaves no outputs live. -/
theorem stop (h : OneLive r) (m : Machine) : OneLive (r.stop m).1 := by
  unfold Registry.stop
  split
  · exact h
  have hk := alike_stopSet { r with state := .stopped, tree := .detached } r.tree.attached m
  have hatt : (({ r with state := .stopped, tree := .detached } : Registry).stopSet r.tree.attached
      m).1.tree.attached = none := by
    rw [hk.tree]
    rfl
  constructor
  case built =>
    rw [built_stopSet, hk.generation]
    exact h.built
  case attached =>
    rw [hatt, hk.state]
    rfl
  case fresh =>
    intro hs
    rw [hk.state] at hs
    cases hs
  case begun =>
    intro hs
    rw [hk.state] at hs
    cases hs
  case running =>
    intro g a ha hg
    rw [hatt] at hg
    cases hg
  case retired =>
    intro g a ha _
    rw [set?_stopSet] at ha
    split at ha
    · rename_i hlive
      obtain ⟨c, hc, rfl⟩ := Option.map_eq_some_iff.1 ha
      exact AppenderSet.retired_stop (h.running g c hc hlive) m
    · rename_i hlive
      exact h.retired g a ha hlive

/-- The live outputs run. -/
theorem running_of_live (h : OneLive r) (ha : r.live? = some a) : a.Running := by
  obtain ⟨g, hatt, hg⟩ := Option.bind_eq_some_iff.1 ha
  exact h.running g a hg hatt

/-- **A stop hands over** what the live outputs held back. -/
theorem stop_handsOver (h : OneLive r) (ha : r.live? = some a) (hquiet : (r.stop m).2.stderr = m.stderr) :
    a.HandsOver m (r.stop m).2 := by
  obtain ⟨g, hatt, hg⟩ := Option.bind_eq_some_iff.1 ha
  have hs : r.state ≠ .stopped := by rw [(h.eq_of_attached hatt).1]; simp
  unfold Registry.stop at hquiet ⊢
  rw [if_neg hs, stopSet_live (r := { r with state := .stopped, tree := .detached }) ha] at hquiet ⊢
  exact AppenderSet.stop_handsOver (h.running_of_live ha) hquiet

/-- **A reset hands over** what the live outputs held back, once the next ones are open. -/
theorem reset_handsOver (h : OneLive r) (ha : r.live? = some a) (hr : r.reset m = (.ok r', m'))
    (hquiet : m'.stderr = m.stderr) :
    a.HandsOver (AppenderSet.build r.config (r.generation + 1) m).2 m' := by
  obtain ⟨b, m₁, hbuild, hstop⟩ := rebuild_eq (rebuild_of_reset hr)
  obtain ⟨g, hatt, hg⟩ := Option.bind_eq_some_iff.1 ha
  -- the next outputs have another generation, so the live ones are found behind them
  have hne : g ≠ r.generation + 1 := by
    have := (h.eq_of_attached hatt).2
    omega
  have hlive : r.tree.attached.bind (r.opened b).set? = some a := by
    rw [hatt]
    exact (set?_opened (AppenderSet.generation_build hbuild) g).trans ((if_neg hne).trans hg)
  have hm' : m' = (a.stop m₁).2 := by rw [← stopSet_live hlive, hstop]
  have hstderr : m₁.stderr = m.stderr := by
    have := AppenderSet.stderr_build r.config (r.generation + 1) m
    rwa [hbuild] at this
  rw [hbuild, hm']
  refine AppenderSet.stop_handsOver (h.running_of_live ha) ?_
  rw [← hm', hquiet, hstderr]

end OneLive

/-- **What a turn can make of the outputs**: they go on, the next ones are built, or the live ones are
stopped. -/
inductive Step (r : Registry) : Registry → Prop where
  | ongoing {r' : Registry} : Ongoing r r' → Step r r'
  | build {m m₁ : Machine} {r₁ r' : Registry} :
      r.init m = (.ok r₁, m₁) ∨ r.reset m = (.ok r₁, m₁) → Ongoing r₁ r' → Step r r'
  | stop (m : Machine) : Step r (r.stop m).1

/-- **Every step** keeps one generation live. -/
theorem OneLive.step (h : OneLive r) (hs : Step r r') : OneLive r' := by
  cases hs with
  | ongoing hg => exact h.congr hg
  | build hr hg =>
    rcases hr with hr | hr
    · exact (h.init hr).congr hg
    · exact (h.reset hr).congr hg
  | stop m => exact h.stop m

/-- A stop passes retired outputs over. -/
theorem set?_stopSet_of_retired (ha : r.set? g = some a) (hr : a.Retired) (live : Option Nat) (m : Machine) :
    (r.stopSet live m).1.set? g = some a := by
  have hstop : (a.stop m).1 = a := by
    unfold AppenderSet.stop
    rw [if_pos hr.stopped]
  rw [set?_stopSet, ha, Option.map_some, hstop, ite_self]

theorem OneLive.set?_rebuild_of_retired (h : OneLive r) (hb : r.rebuild m = (.ok r', m'))
    (ha : r.set? g = some a) (hr : a.Retired) : r'.set? g = some a := by
  obtain ⟨b, m₁, hbuild, hstop⟩ := rebuild_eq hb
  have hne : g ≠ r.generation + 1 := by
    have := (h.exists_set?_iff.1 ⟨a, ha⟩).2
    omega
  have hopened : (r.opened b).set? g = some a :=
    ((set?_opened (AppenderSet.generation_build hbuild) g).trans (if_neg hne)).trans ha
  have hnext := set?_stopSet_of_retired hopened hr r.tree.attached m₁
  rw [hstop] at hnext
  exact hnext

/-- **Every step** leaves retired outputs as they are. -/
theorem OneLive.set?_step (h : OneLive r) (hs : Step r r') (ha : r.set? g = some a) (hr : a.Retired) :
    r'.set? g = some a := by
  have hgoes : ∀ {r₁ r₂ : Registry}, Ongoing r₁ r₂ → r₁.set? g = some a → r₂.set? g = some a := by
    intro r₁ r₂ hg h₁
    obtain ⟨a', ha', -, hsame⟩ := hg.sets g a h₁
    rw [ha', hsame hr]
  cases hs with
  | ongoing hg => exact hgoes hg ha
  | @build m m₁ r₁ _ hb hg =>
    refine hgoes hg ?_
    rcases hb with hb | hb
    · obtain ⟨r₂, hrebuild, rfl⟩ := rebuild_of_init hb
      have hset := h.set?_rebuild_of_retired hrebuild ha hr
      exact hset
    · exact h.set?_rebuild_of_retired (rebuild_of_reset hb) ha hr
  | stop m =>
    unfold Registry.stop
    split
    · exact ha
    · exact set?_stopSet_of_retired (r := { r with state := .stopped, tree := .detached }) ha hr _ m

end Registry

/-! ### Turns -/

namespace Logbook

open Registry (Ongoing OneLive)

theorem emit_ongoing (b : Logbook) (e : LogEvent) : Ongoing b.registry (b.emit e).registry := by
  unfold emit
  split
  · exact Ongoing.refl _
  · exact (Registry.ongoing_publish _ _ _ _ _ _).trans (Registry.ongoing_publish _ _ _ _ _ _)

theorem say_ongoing (b : Logbook) (s : Severity) (message : String)
    (fields : List (String × FieldValue)) : Ongoing b.registry (b.say s message fields).registry :=
  emit_ongoing b _

theorem claim_ongoing (b : Logbook) (c : Claim) : Ongoing b.registry (b.claim c).2.registry := by
  have hw : Ongoing b.registry (b.warnOfRoot c).registry := by
    unfold warnOfRoot
    split
    · exact say_ongoing b _ _ _
    · exact Ongoing.refl _
  unfold claim grant
  split
  · exact hw
  · rename_i r hr
    exact (hw.trans (Registry.ongoing_claim hr)).trans
      (say_ongoing { b.warnOfRoot c with registry := r } _ _ _)

theorem release_ongoing (b : Logbook) (owner : String) :
    Ongoing b.registry (b.release owner).2.registry := by
  unfold release
  split
  · exact Ongoing.refl _
  · rename_i r hr
    split
    · exact Ongoing.refl _
    · exact (Registry.ongoing_release hr).trans (say_ongoing { b with registry := r } _ _ _)

theorem hear_ongoing (b : Logbook) (e : HostEvent) : Ongoing b.registry (b.hear e).registry := by
  cases e with
  | moduleStopped owner =>
    have h := release_ongoing b owner
    unfold hear
    simp only
    split
    · rename_i heq
      rw [heq] at h
      exact h
    · rename_i b₁ heq
      rw [heq] at h
      exact h.trans (say_ongoing b₁ _ _ _)
  | _ => exact Ongoing.refl _

/-- **Retired outputs take no record**: the registry stays as it is, and so does the machine. -/
theorem write_of_retired {b : Logbook} {g : Nat} {a : AppenderSet} (h : OneLive b.registry)
    (ha : b.registry.set? g = some a) (hr : a.Retired) (sink : Sink) (copies : Nat) (s : Severity)
    (record : Bytes) : b.write g sink copies s record = b := by
  have hw := (AppenderSet.serves_writeCopies sink s record copies a b.machine).retired hr
  unfold write Registry.writeThrough
  simp only [ha]
  rcases hc : AppenderSet.writeCopies sink s record copies a b.machine with ⟨x, a', m'⟩
  rw [hc] at hw
  obtain ⟨rfl, rfl⟩ := hw
  simp only [h.putSet_self ha]

/-- **The writer of retired outputs** has nothing to do. -/
theorem work_of_retired {b : Logbook} {g : Nat} {a : AppenderSet} (h : OneLive b.registry)
    (ha : b.registry.set? g = some a) (hr : a.Retired) : b.work g = b := by
  have hw := (AppenderSet.serves_work a b.machine).retired hr
  unfold work Registry.work
  simp only [ha]
  rcases hc : a.work b.machine with ⟨a', m'⟩
  rw [hc] at hw
  obtain ⟨rfl, rfl⟩ := hw
  simp only [h.putSet_self ha]

/-- **One turn** builds the next outputs, stops the live ones, or does neither. -/
theorem turn_step (b : Logbook) (t : Turn) : Registry.Step b.registry (b.turn t).2.registry := by
  cases t with
  | init =>
    show Registry.Step b.registry b.init.2.registry
    unfold init
    split
    · exact .ongoing (Ongoing.refl _)
    · rename_i r m hr
      exact .build (.inl hr) (say_ongoing { b with machine := m, registry := r } _ _ _)
  | reset =>
    show Registry.Step b.registry b.reset.2.registry
    unfold reset
    split
    · exact .ongoing (Ongoing.refl _)
    · rename_i r m hr
      exact .build (.inr hr) (say_ongoing { b with machine := m, registry := r } _ _ _)
  | stop => exact .stop b.machine
  | claim c => exact .ongoing (claim_ongoing b c)
  | release owner => exact .ongoing (release_ongoing b owner)
  | hear e => exact .ongoing (hear_ongoing b e)
  | updateConfig config => exact .ongoing (.of_sets rfl rfl rfl rfl)
  | emit e => exact .ongoing (emit_ongoing b e)
  | route => exact .ongoing (Ongoing.refl _)
  | write g sink copies s record =>
    exact .ongoing (Registry.ongoing_writeThrough b.registry g sink copies s record b.machine)
  | work g => exact .ongoing (Registry.ongoing_work b.registry g b.machine)
  | elapse m => exact .ongoing (Ongoing.refl _)

end Logbook

/-- A stopped registry builds nothing. -/
theorem Logbook.not_stopped_of_builds {b : Logbook} {t : Turn} (hb : t.builds = true)
    (hok : (b.turn t).1 = .ok ()) : b.registry.state ≠ .stopped := by
  cases t with
  | init =>
    rw [(b.init_spec.2 hok).1]
    simp
  | reset =>
    rw [(b.reset_spec.2 hok).1]
    simp
  | _ => cases hb

namespace Course

open Registry (OneLive)

variable {s : Course} {t : Turn}

/-- **The starts and resets that succeed** among some turns. -/
def built (s : Course) : List Turn → Nat
  | [] => 0
  | t :: ts => (if t.builds ∧ (s.book.turn t).1 = .ok () then 1 else 0) + (s.take t).built ts

theorem step_take (s : Course) (t : Turn) : s.registry.Step (s.take t).registry := by
  rw [registry, registry, take_book]
  exact Logbook.turn_step s.book t

theorem oneLive_run (h : s.registry.OneLive) (ts : List Turn) : (s.run ts).registry.OneLive :=
  run_induction (P := fun s => s.registry.OneLive) (fun s t hs => hs.step (step_take s t)) ts s h

/-- **What one turn makes of state and generation.** -/
theorem generation_take (s : Course) (t : Turn) :
    (s.take t).registry.generation =
        (if t.builds ∧ (s.book.turn t).1 = .ok () then 1 else 0) + s.registry.generation ∧
      (s.registry.state = .stopped → (s.take t).registry.state = .stopped) := by
  rw [registry, take_book]
  cases hx : (s.book.turn t).1 with
  | error e =>
    have hu := Logbook.turn_error hx
    simp [hu.generation, hu.state]
  | ok u =>
    cases Logbook.turn_ok hx with
    | records hb hu => simp [hb, hu.generation, hu.state]
    | claim hr hu =>
      have h := (Registry.claim_ok hr).2
      simp [Turn.builds, hu.generation, hu.state, h]
    | release ht hr hu =>
      have hb : t.builds = false := by rcases ht with rfl | rfl <;> rfl
      obtain ⟨-, ⟨-, h⟩ | ⟨c, -, h⟩⟩ := Registry.release_ok hr <;> simp [hb, hu.generation, hu.state, h]
    | build hb hr ha hu =>
      have hns := Logbook.not_stopped_of_builds hb hx
      simp [hb, hu.generation, hr.generation, hns, Nat.add_comm]
    | config config => exact ⟨(Nat.zero_add _).symm, id⟩
    | stop hk => simp [Turn.builds, hk.generation, hk.state]

theorem generation_run (ts : List Turn) (s : Course) :
    (s.run ts).registry.generation = s.built ts + s.registry.generation ∧
      (s.registry.state = .stopped → (s.run ts).registry.state = .stopped) := by
  induction ts generalizing s with
  | nil => exact ⟨(Nat.zero_add _).symm, id⟩
  | cons t ts ih =>
    obtain ⟨hg, hs⟩ := ih (s.take t)
    obtain ⟨hg', hs'⟩ := generation_take s t
    refine ⟨?_, fun h => hs (hs' h)⟩
    rw [run_cons, hg, hg', built]
    omega

/-- **Retired outputs stay as they are**, after any further turns. -/
theorem retired_run (h : s.registry.OneLive) {g : Nat} {a : AppenderSet}
    (ha : s.registry.set? g = some a) (hr : a.Retired) (us : List Turn) :
    (s.run us).registry.set? g = some a :=
  (run_induction (P := fun s => s.registry.OneLive ∧ s.registry.set? g = some a)
    (fun s t hs => ⟨hs.1.step (step_take s t), hs.1.set?_step (step_take s t) hs.2 hr⟩) us s ⟨h, ha⟩).2

/-- **One live generation, after any course.** The registry is active exactly if its tree has outputs; these are
the outputs of the last generation, and they run. As many generations were built as starts and resets
succeeded. All other outputs are retired: they were stopped, nothing is queued or buffered, the file is closed,
and whatever happens from then on they stay so, and neither a record that goes through them nor their writer
changes anything, on the disk or elsewhere. When live outputs are stopped, by a reset or for good, and nobody
complains about the disk, then what they held back is written in order. A stopped registry stays stopped, with
no outputs live. -/
theorem one_live_generation (config : Settings.Logging) (m : Machine) (ts : List Turn) :
    let s := (start config m).run ts
    let r := s.registry
    (r.state = .active ↔ r.tree.attached.isSome = true) ∧
    (∀ g, r.tree.attached = some g →
      g = r.generation ∧ ∃ a, r.live? = some a ∧ a.generation = g ∧ a.Running) ∧
    r.generation = (start config m).built ts ∧
    (∀ g, (∃ a, r.set? g = some a) ↔ 1 ≤ g ∧ g ≤ r.generation) ∧
    (∀ g a, r.set? g = some a → r.tree.attached ≠ some g →
      a.Retired ∧ ∀ us,
        let b := (s.run us).book
        b.registry.set? g = some a ∧
          (∀ sink copies severity record, b.write g sink copies severity record = b) ∧ b.work g = b) ∧
    (∀ a, r.live? = some a → ∀ m,
      (∀ r' m', r.reset m = (.ok r', m') → m'.stderr = m.stderr →
        a.HandsOver (AppenderSet.build r.config (r.generation + 1) m).2 m') ∧
      ((r.stop m).2.stderr = m.stderr → a.HandsOver m (r.stop m).2)) ∧
    (r.state = .stopped →
      ∀ us, (s.run us).registry.state = .stopped ∧ (s.run us).registry.live? = none) := by
  intro s r
  have h : r.OneLive := oneLive_run (s := start config m) (Registry.oneLive_new config) ts
  refine ⟨h.active_iff, ?_, ?_, fun g => h.exists_set?_iff, ?_, ?_, ?_⟩
  · intro g hatt
    exact ⟨(h.eq_of_attached hatt).2, h.exists_live hatt⟩
  · exact (generation_run ts (start config m)).1
  · intro g a ha hatt
    have hr := h.retired g a ha hatt
    refine ⟨hr, fun us => ?_⟩
    have ha' := retired_run h ha hr us
    have h' := oneLive_run h us
    exact ⟨ha', fun sink copies severity record =>
      Logbook.write_of_retired h' ha' hr sink copies severity record, Logbook.work_of_retired h' ha' hr⟩
  · intro a ha m
    exact ⟨fun r' m' hr hquiet => h.reset_handsOver ha hr hquiet, fun hquiet => h.stop_handsOver ha hquiet⟩
  · intro hs us
    have h' := oneLive_run h us
    have hs' := (generation_run us s).2 hs
    refine ⟨hs', ?_⟩
    unfold Registry.live?
    rw [h'.attached, if_neg (by rw [hs']; simp)]
    rfl

end Course

end ModuleHost
