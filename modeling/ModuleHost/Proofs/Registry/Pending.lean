import Mathlib
import ModuleHost.Proofs.Registry.Replay

/-!
# Settings that wait for a reset

New settings wait in the registry until a reset puts them into effect. Until then a registry that has them and one
that has not are compared, turn by turn.

* `Settings.Logging.RestoresAs`: two sections with the same logger for every category that can be released.
* `Registry.Parallel`: the same owners and the same index; the same tree as well, if the settings restore alike.
* `Logbook.parallel_turn`, `Logbook.turn_updateConfig`: what a turn does to two registries at once.
* `Course.pending_unseen_iff`: **settings that wait are never seen in an answer or in who owns what, and they are
  not seen in the tree exactly if they restore every category as the settings in effect do.**
* `Course.pending_seen`: settings that wait, and are seen in a release.
-/

namespace ModuleHost

/-- **Two sections with the same logger for every category that can be released.** -/
def Settings.Logging.RestoresAs (l l' : Settings.Logging) : Prop :=
  ∀ x, x ≠ rootCategory → Registry.restored? l' x = Registry.restored? l x

/-- Turns that claim, release and record, and time that passes: none of them asks for other settings. -/
def Turn.isPlain : Turn → Bool
  | .claim _ => true
  | .release _ => true
  | .hear _ => true
  | .emit _ => true
  | .write _ _ _ _ _ => true
  | .work _ => true
  | .elapse _ => true
  | _ => false

theorem Turn.keeps_of_isPlain {t : Turn} (h : t.isPlain = true) : t.keeps = true := by
  cases t <;> first | rfl | cases h

namespace Registry

variable {r r' r₁ r₁' : Registry} {c d : Claim} {owner x : String} {l l' : Settings.Logging} {e : RegistryError}

/-- A category is taken out of a tree by way of what the settings have for it. -/
theorem detachName_eq (l : Settings.Logging) (t : LoggerTree) (name : String) :
    detachName l t name = (restored? l name).elim (t.remove name) ((t.remove name).insert name) := by
  unfold detachName restored?
  cases l.loggers.find? (fun s => hostName s == name) <;> rfl

/-- Settings that agree on the categories of a claim take it out of a tree alike. -/
theorem detach_congr (h : ∀ x ∈ c.categories.names, restored? l' x = restored? l x) (t : LoggerTree) :
    detach l' t c = detach l t c := by
  refine List.foldl_ext _ _ _ fun t x hx => ?_
  rw [detachName_eq, detachName_eq, h x hx]

/-- Nobody owns the root, so sections that restore alike take every released claim out of a tree alike. -/
theorem detach_released (ho : r.Owned) (hsame : r.config.RestoresAs l) (hc : r.claimOf? owner = some c)
    (t : LoggerTree) : detach l t c = detach r.config t c := by
  refine detach_congr (fun x hx => hsame x fun hroot => ho.rootless c (mem_of_claimOf? hc).1 ?_) t
  rw [← hroot]
  exact hx

/-- **Two registries that differ in their settings** and in their outputs. The trees are the same as long as both
sections restore alike. -/
structure Parallel (r r' : Registry) : Prop where
  state : r'.state = r.state
  owners : r'.owners = r.owners
  byCategory : r'.byCategory = r.byCategory
  tree : r.config.RestoresAs r'.config → r'.tree = r.tree

theorem Parallel.congr (h : Parallel r r') (hk : Alike r r₁) (hk' : Alike r' r₁') : Parallel r₁ r₁' where
  state := by rw [hk'.state, hk.state, h.state]
  owners := by rw [hk'.owners, hk.owners, h.owners]
  byCategory := by rw [hk'.byCategory, hk.byCategory, h.byCategory]
  tree := by
    rw [hk'.tree, hk.tree, hk'.config, hk.config]
    exact h.tree

/-- **A claim** is answered alike. -/
theorem Parallel.claim (h : Parallel r r') (c : Claim) :
    (∀ e, r.claim c = .error e → r'.claim c = .error e) ∧
      ∀ r₁, r.claim c = .ok r₁ → ∃ r₁', r'.claim c = .ok r₁' ∧ Parallel r₁ r₁' := by
  have hrefusal : r'.refusal? c = r.refusal? c := by
    unfold refusal? contested?
    rw [h.state, h.owners, h.byCategory]
  unfold Registry.claim
  rw [hrefusal]
  cases r.refusal? c with
  | some e => exact ⟨fun _ he => he, fun _ hr => nomatch hr⟩
  | none =>
    refine ⟨nofun, ?_⟩
    rintro _ ⟨⟩
    exact ⟨_, rfl, h.state, by simp [h.owners], by simp [h.byCategory], fun hsame => by simp [h.tree hsame]⟩

/-- **A release** is answered alike. -/
theorem Parallel.release (h : Parallel r r') (ho : r.Owned) (owner : String) :
    (∀ e, r.release owner = .error e → r'.release owner = .error e) ∧
      ∀ r₁, r.release owner = .ok r₁ → ∃ r₁', r'.release owner = .ok r₁' ∧ Parallel r₁ r₁' := by
  have hclaim : r'.claimOf? owner = r.claimOf? owner := by
    unfold claimOf?
    rw [h.owners]
  unfold Registry.release ensureActive
  rw [hclaim, h.state]
  split
  · exact ⟨fun _ he => he, fun _ hr => nomatch hr⟩
  · cases hc : r.claimOf? owner with
    | none => exact ⟨nofun, fun _ hr => ⟨r', rfl, Except.ok.inj hr ▸ h⟩⟩
    | some c =>
      refine ⟨nofun, ?_⟩
      rintro _ ⟨⟩
      refine ⟨_, rfl, rfl, by simp [h.owners], by simp [h.byCategory], fun hsame => ?_⟩
      show detach r'.config r'.tree c = detach r.config r.tree c
      rw [h.tree hsame]
      exact detach_released ho hsame hc r.tree

/-! ### Records, whatever the settings -/

theorem writeThrough_updateConfig (r : Registry) (l : Settings.Logging) (g : Nat) (sink : Sink) (copies : Nat)
    (s : Severity) (record : Bytes) (m : Machine) :
    (r.updateConfig l).writeThrough g sink copies s record m =
      ((r.writeThrough g sink copies s record m).1, (r.writeThrough g sink copies s record m).2.1.updateConfig l,
        (r.writeThrough g sink copies s record m).2.2) := by
  have hset : (r.updateConfig l).set? g = r.set? g := rfl
  unfold writeThrough
  rw [hset]
  cases r.set? g <;> rfl

theorem work_updateConfig (r : Registry) (l : Settings.Logging) (g : Nat) (m : Machine) :
    (r.updateConfig l).work g m = ((r.work g m).1.updateConfig l, (r.work g m).2) := by
  have hset : (r.updateConfig l).set? g = r.set? g := rfl
  unfold work
  rw [hset]
  cases r.set? g <;> rfl

theorem writeFor_updateConfig (r : Registry) (l : Settings.Logging) (sink : Sink) (target : String) (s : Severity)
    (record : Bytes) (m : Machine) :
    (r.updateConfig l).writeFor sink target s record m =
      ((r.writeFor sink target s record m).1, (r.writeFor sink target s record m).2.1.updateConfig l,
        (r.writeFor sink target s record m).2.2) := by
  have htree : (r.updateConfig l).tree = r.tree := rfl
  unfold writeFor
  rw [htree]
  cases r.tree.attached with
  | none => rfl
  | some g => exact writeThrough_updateConfig r l g sink _ s record m

theorem publish_updateConfig (r : Registry) (l : Settings.Logging) (sink : Sink) (target : String) (s : Severity)
    (record : Bytes) (m : Machine) :
    (r.updateConfig l).publish sink target s record m =
      ((r.publish sink target s record m).1.updateConfig l, (r.publish sink target s record m).2) := by
  have htree : (r.updateConfig l).tree = r.tree := rfl
  unfold publish
  rw [htree]
  cases r.tree.attached with
  | none => rfl
  | some g =>
    simp only [writeFor_updateConfig, work_updateConfig]
    split <;> rfl

end Registry

namespace Logbook

open Registry (Alike Parallel)

variable {b b' : Logbook} {t : Turn} {l : Settings.Logging}

/-! ### Two registries at once -/

/-- That a module stopped is a release, whatever is reported about it. -/
theorem alike_hear (b : Logbook) (owner : String) :
    Alike (b.release owner).2.registry (b.hear (.moduleStopped owner)).registry := by
  unfold hear
  simp only
  split
  · rename_i b₁ heq
    rw [heq]
    exact Alike.refl _
  · rename_i e b₁ heq
    rw [heq]
    exact (say_untouched b₁ _ _ _).toAlike

theorem parallel_claim (h : Parallel b.registry b'.registry) (c : Claim) :
    (b'.claim c).1 = (b.claim c).1 ∧ Parallel (b.claim c).2.registry (b'.claim c).2.registry := by
  obtain ⟨herr, hok⟩ := h.claim c
  cases hr : b.registry.claim c with
  | error e =>
    obtain ⟨hanswer, hu⟩ := (b.claim_spec c).1 e hr
    obtain ⟨hanswer', hu'⟩ := (b'.claim_spec c).1 e (herr e hr)
    exact ⟨hanswer'.trans hanswer.symm, h.congr hu.toAlike hu'.toAlike⟩
  | ok r =>
    obtain ⟨r', hr', hp⟩ := hok r hr
    obtain ⟨hanswer, hu⟩ := (b.claim_spec c).2 r hr
    obtain ⟨hanswer', hu'⟩ := (b'.claim_spec c).2 r' hr'
    exact ⟨hanswer'.trans hanswer.symm, hp.congr hu.toAlike hu'.toAlike⟩

theorem parallel_release (h : Parallel b.registry b'.registry) (ho : b.registry.Owned) (owner : String) :
    (b'.release owner).1 = (b.release owner).1 ∧
      Parallel (b.release owner).2.registry (b'.release owner).2.registry := by
  obtain ⟨herr, hok⟩ := h.release ho owner
  cases hr : b.registry.release owner with
  | error e =>
    obtain ⟨hanswer, hu⟩ := (b.release_spec owner).1 e hr
    obtain ⟨hanswer', hu'⟩ := (b'.release_spec owner).1 e (herr e hr)
    exact ⟨hanswer'.trans hanswer.symm, h.congr hu.toAlike hu'.toAlike⟩
  | ok r =>
    obtain ⟨r', hr', hp⟩ := hok r hr
    obtain ⟨hanswer, hu⟩ := (b.release_spec owner).2 r hr
    obtain ⟨hanswer', hu'⟩ := (b'.release_spec owner).2 r' hr'
    exact ⟨hanswer'.trans hanswer.symm, hp.congr hu.toAlike hu'.toAlike⟩

/-- **A plain turn** is answered alike, and keeps two registries side by side. -/
theorem parallel_turn (h : Parallel b.registry b'.registry) (ho : b.registry.Owned) (ht : t.isPlain = true) :
    (b'.turn t).1 = (b.turn t).1 ∧ Parallel (b.turn t).2.registry (b'.turn t).2.registry := by
  cases t with
  | claim c => exact parallel_claim h c
  | release owner => exact parallel_release h ho owner
  | hear e =>
    refine ⟨rfl, ?_⟩
    cases e with
    | moduleStopped owner =>
      exact (parallel_release h ho owner).2.congr (alike_hear b owner) (alike_hear b' owner)
    | _ => exact h
  | emit e => exact ⟨rfl, h.congr (emit_untouched b e).toAlike (emit_untouched b' e).toAlike⟩
  | write g sink copies s record =>
    exact ⟨rfl, h.congr (Registry.untouched_writeThrough _ g sink copies s record _).toAlike
      (Registry.untouched_writeThrough _ g sink copies s record _).toAlike⟩
  | work g => exact ⟨rfl, h.congr (Registry.untouched_work _ g _).toAlike (Registry.untouched_work _ g _).toAlike⟩
  | elapse m => exact ⟨rfl, h⟩
  | _ => cases ht

/-! ### The same registry with other settings -/

theorem emit_updateConfig (b : Logbook) (l : Settings.Logging) (e : LogEvent) :
    (b.updateConfig l).emit e = (b.emit e).updateConfig l := by
  unfold emit
  cases hrouted : b.routed with
  | none => simp [updateConfig, hrouted]
  | some ansi => simp [updateConfig, hrouted, Registry.publish_updateConfig]

theorem warnOfRoot_updateConfig (b : Logbook) (l : Settings.Logging) (c : Claim) :
    (b.updateConfig l).warnOfRoot c = (b.warnOfRoot c).updateConfig l := by
  have hnames : (b.updateConfig l).registry.namesRoot c = b.registry.namesRoot c := rfl
  unfold warnOfRoot
  rw [hnames]
  split
  · exact emit_updateConfig b l _
  · rfl

theorem grant_updateConfig (b : Logbook) (l : Settings.Logging) (c : Claim) :
    (b.updateConfig l).grant c = ((b.grant c).1, (b.grant c).2.updateConfig l) := by
  have hclaim : (b.updateConfig l).registry.claim c = (b.registry.claim c).map (·.updateConfig l) := by
    show (b.registry.updateConfig l).claim c = _
    have hrefusal : (b.registry.updateConfig l).refusal? c = b.registry.refusal? c := rfl
    unfold Registry.claim
    rw [hrefusal]
    cases b.registry.refusal? c <;> rfl
  unfold grant
  rw [hclaim]
  cases b.registry.claim c with
  | error e => rfl
  | ok r => exact congrArg (Prod.mk _) (emit_updateConfig { b with registry := r } l _)

theorem claim_updateConfig (b : Logbook) (l : Settings.Logging) (c : Claim) :
    (b.updateConfig l).claim c = ((b.claim c).1, (b.claim c).2.updateConfig l) := by
  unfold claim
  rw [warnOfRoot_updateConfig, grant_updateConfig]

/-- **A release** is the same if the sections restore alike. -/
theorem release_updateConfig (ho : b.registry.Owned) (hsame : b.registry.config.RestoresAs l) (owner : String) :
    (b.updateConfig l).release owner = ((b.release owner).1, (b.release owner).2.updateConfig l) := by
  have hclaimOf : (b.updateConfig l).registry.claimOf? owner = b.registry.claimOf? owner := rfl
  have hrelease : (b.updateConfig l).registry.release owner =
      (b.registry.release owner).map (·.updateConfig l) := by
    have hactive : (b.updateConfig l).registry.ensureActive = b.registry.ensureActive := rfl
    unfold Registry.release
    rw [hclaimOf, hactive]
    cases b.registry.ensureActive with
    | error e => rfl
    | ok u =>
      cases hc : b.registry.claimOf? owner with
      | none => rfl
      | some c =>
        have hdetach : Registry.detach (b.updateConfig l).registry.config (b.updateConfig l).registry.tree c =
            Registry.detach b.registry.config b.registry.tree c :=
              Registry.detach_released ho hsame hc b.registry.tree
        simp only [hdetach]
        rfl
  unfold release
  rw [hrelease, hclaimOf]
  cases b.registry.release owner with
  | error e => rfl
  | ok r =>
    cases b.registry.claimOf? owner with
    | none => rfl
    | some c => exact congrArg (Prod.mk _) (emit_updateConfig { b with registry := r } l _)

theorem hear_updateConfig (ho : b.registry.Owned) (hsame : b.registry.config.RestoresAs l) (e : HostEvent) :
    (b.updateConfig l).hear e = (b.hear e).updateConfig l := by
  cases e with
  | moduleStopped owner =>
    unfold hear
    simp only [release_updateConfig ho hsame]
    rcases b.release owner with ⟨_ | _, b₁⟩
    · exact emit_updateConfig b₁ l _
    · rfl
  | _ => rfl

/-- **A plain turn** does the same with other settings, if they restore alike: not only the answer and the
registry are the same, but everything that is on the machine and everything that is noted. -/
theorem turn_updateConfig (ho : b.registry.Owned) (hsame : b.registry.config.RestoresAs l)
    (ht : t.isPlain = true) :
    (b.updateConfig l).turn t = ((b.turn t).1, (b.turn t).2.updateConfig l) := by
  cases t with
  | claim c => exact claim_updateConfig b l c
  | release owner => exact release_updateConfig ho hsame owner
  | hear e => exact congrArg (Prod.mk _) (hear_updateConfig ho hsame e)
  | emit e => exact congrArg (Prod.mk _) (emit_updateConfig b l e)
  | write g sink copies s record =>
    show ((.ok (), (b.updateConfig l).write g sink copies s record) : Except RegistryError Unit × Logbook) = _
    simp only [write, updateConfig, Registry.writeThrough_updateConfig, turn]
  | work g =>
    show ((.ok (), (b.updateConfig l).work g) : Except RegistryError Unit × Logbook) = _
    simp only [work, updateConfig, Registry.work_updateConfig, turn]
  | elapse m => rfl
  | _ => cases ht

end Logbook

namespace Course

open Registry (Parallel)

variable {s s' : Course} {t : Turn} {l : Settings.Logging} {c : Claim} {x : String}

/-! ### Courses side by side -/

/-- **Plain turns** are answered alike, and keep two courses side by side. -/
theorem parallel_run (h : Parallel s.registry s'.registry) (hs : s.Sound) (us : List Turn)
    (hus : ∀ u ∈ us, u.isPlain = true) : Parallel (s.run us).registry (s'.run us).registry := by
  induction us generalizing s s' with
  | nil => exact h
  | cons u us ih =>
    have hu := hus u List.mem_cons_self
    refine ih ?_ (hs.take (Turn.keeps_of_isPlain hu)).1 fun v hv => hus v (List.mem_cons_of_mem u hv)
    rw [registry, registry, take_book, take_book]
    exact (Logbook.parallel_turn h hs.owned hu).2

/-- **Plain turns** do the same with settings that restore alike. -/
theorem book_run_updateConfig (h : s'.book = s.book.updateConfig l) (hs : s.Sound)
    (hsame : s.registry.config.RestoresAs l) (us : List Turn) (hus : ∀ u ∈ us, u.isPlain = true) :
    (s'.run us).book = (s.run us).book.updateConfig l := by
  induction us generalizing s s' with
  | nil => exact h
  | cons u us ih =>
    have hu := hus u List.mem_cons_self
    obtain ⟨hnext, hconfig⟩ := hs.take (Turn.keeps_of_isPlain hu)
    refine ih ?_ hnext (hconfig ▸ hsame) fun v hv => hus v (List.mem_cons_of_mem u hv)
    rw [take_book, take_book, h, Logbook.turn_updateConfig hs.owned hsame hu]

/-- What a released category gets. -/
theorem Sound.logger?_release (h : s.Sound) (hc : c ∈ s.registry.owners) (hx : x ∈ c.categories.names) :
    (s.take (.release c.owner)).registry.tree.logger? x = Registry.restored? s.registry.config x := by
  obtain ⟨r, hr⟩ : ∃ r, s.registry.release c.owner = .ok r := by
    unfold Registry.release Registry.ensureActive
    rw [if_pos h.active]
    simp only
    split <;> exact ⟨_, rfl⟩
  have hu := ((s.book.release_spec c.owner).2 r hr).2
  rw [registry, take_book]
  show (s.book.release c.owner).2.registry.tree.logger? x = _
  rw [hu.tree]
  obtain ⟨-, ⟨hnone, -⟩ | ⟨d, hd, rfl⟩⟩ := Registry.release_ok hr
  · have hmiss := List.find?_eq_none.1 hnone c hc
    simp at hmiss
  · obtain ⟨hdm, hdo⟩ := Registry.mem_of_claimOf? hd
    obtain rfl := h.owned.eq_of_owner hdm hc hdo
    rw [Registry.logger?_detach, if_pos hx]

/-! ### Settings that wait -/

/-- **Settings wait**: they were handed over, and since then time passed at most, and resets failed to build
outputs from them. -/
inductive Waits (s : Course) (l : Settings.Logging) : Course → Prop where
  | handed : Waits s l (s.take (.updateConfig l))
  | elapsed {s' : Course} (m : Machine) : Waits s l s' → Waits s l (s'.take (.elapse m))
  | refused {s' : Course} {e : SystemError} : Waits s l s' → (s'.book.turn .reset).1 = .error (.appender e) →
      Waits s l (s'.take .reset)

/-- Only the settings are others, and what became of the machine. -/
theorem Waits.exists_machine (h : s.Waits l s') : ∃ m, s'.book = { s.book.updateConfig l with machine := m } := by
  induction h with
  | handed => exact ⟨s.book.machine, take_book _ _⟩
  | @elapsed s' m _ ih =>
    obtain ⟨m₀, heq⟩ := ih
    refine ⟨m, ?_⟩
    rw [take_book]
    show { s'.book with machine := m } = _
    rw [heq]
  | @refused s' e _ hfailed ih =>
    obtain ⟨m₀, heq⟩ := ih
    rw [take_book]
    show ∃ m, s'.book.reset.2 = _
    have hfailed : s'.book.reset.1 = .error (.appender e) := hfailed
    unfold Logbook.reset at hfailed ⊢
    rw [heq] at hfailed ⊢
    split at hfailed
    · rename_i m₁ _
      exact ⟨m₁, rfl⟩
    · cases hfailed

theorem Waits.owned_and_live (h : s.Waits l s') (hs : s.registry.Owned ∧ s.Live) :
    s'.registry.Owned ∧ s'.Live := by
  induction h with
  | handed => exact owned_take hs.1 hs.2 _
  | elapsed m _ ih => exact owned_take ih.1 ih.2 _
  | refused _ _ ih => exact owned_take ih.1 ih.2 _

theorem Waits.parallel (h : s.Waits l s') : Parallel s.registry s'.registry := by
  obtain ⟨m, heq⟩ := h.exists_machine
  rw [registry, registry, heq]
  exact ⟨rfl, rfl, rfl, fun _ => rfl⟩

theorem Waits.config (h : s.Waits l s') : s'.registry.config = l := by
  obtain ⟨m, heq⟩ := h.exists_machine
  rw [registry, heq]
  rfl

theorem Waits.sound (h : s.Waits l s') (hs : s.Sound) : s'.Sound := by
  obtain ⟨ho, hl⟩ := h.owned_and_live ⟨hs.owned, hs.live⟩
  exact ⟨ho, hl, h.parallel.state.trans hs.active⟩

/-- **A release tells** what is restored, on both courses. -/
theorem Sound.restored?_eq_of_tree (hs : s.Sound) (hs' : s'.Sound) (h : Parallel s.registry s'.registry)
    (hc : c ∈ s.registry.owners) (hx : x ∈ c.categories.names)
    (htree : (s'.take (.release c.owner)).registry.tree = (s.take (.release c.owner)).registry.tree) :
    Registry.restored? s'.registry.config x = Registry.restored? s.registry.config x := by
  have hc' : c ∈ s'.registry.owners := h.owners ▸ hc
  rw [← hs'.logger?_release hc' hx, htree, hs.logger?_release hc hx]

/-! ### Two courses compared -/

/-- **Two courses that answer alike**: whatever plain turns are taken on both, every plain call gets the same
answer, and the owners and the index are the same. -/
def AnswersAlike (s s' : Course) : Prop :=
  ∀ us, (∀ u ∈ us, u.isPlain = true) →
    (∀ u, u.isPlain = true → ((s'.run us).book.turn u).1 = ((s.run us).book.turn u).1) ∧
    (s'.run us).registry.owners = (s.run us).registry.owners ∧
    (s'.run us).registry.byCategory = (s.run us).registry.byCategory

/-- **Two courses with one tree**, whatever plain turns are taken on both. -/
def SameTrees (s s' : Course) : Prop :=
  ∀ us, (∀ u ∈ us, u.isPlain = true) → (s'.run us).registry.tree = (s.run us).registry.tree

/-- **Two courses that differ in the settings alone**, whatever plain turns are taken on both: outputs, files,
streams and meters are the same, and so is the answer to a record by way of any generation. -/
def SameButSettings (s s' : Course) (l : Settings.Logging) : Prop :=
  ∀ us, (∀ u ∈ us, u.isPlain = true) →
    (s'.run us).book = (s.run us).book.updateConfig l ∧
    ∀ g sink copies severity record,
      ((s'.run us).registry.writeThrough g sink copies severity record (s'.run us).book.machine).1 =
        ((s.run us).registry.writeThrough g sink copies severity record (s.run us).book.machine).1

/-- If settings that wait are never seen in the tree, they restore every category as those before them did. -/
theorem Waits.restoresAs (h : s.Waits l s') (hs : s.Sound) (htrees : s.SameTrees s') :
    s.registry.config.RestoresAs l := by
  intro x hx
  have hs' := h.sound hs
  rw [← h.config]
  -- a free category is claimed first, so that it can be released
  by_cases hfree : ∀ c ∈ s.registry.owners, x ∉ c.categories.names
  · obtain ⟨c, d, hd, hxd⟩ := hs.exists_claim hx hfree
    have hclaim : ∀ u ∈ [Turn.claim c], u.isPlain = true := by simp [Turn.isPlain]
    obtain ⟨h₁, hconfig⟩ := hs.take (t := .claim c) rfl
    obtain ⟨h₁', hconfig'⟩ := hs'.take (t := .claim c) rfl
    have hboth := h₁.restored?_eq_of_tree h₁' (parallel_run h.parallel hs _ hclaim) hd hxd
      (htrees [.claim c, .release d.owner] (by simp [Turn.isPlain]))
    rwa [hconfig, hconfig'] at hboth
  · push Not at hfree
    obtain ⟨c, hc, hxc⟩ := hfree
    exact hs.restored?_eq_of_tree hs' h.parallel hc hxc (htrees [.release c.owner] (by simp [Turn.isPlain]))

theorem Waits.answersAlike (h : s.Waits l s') (hs : s.Sound) : s.AnswersAlike s' := by
  intro us hus
  have hlater := parallel_run h.parallel hs us hus
  have howned := (hs.run us fun u hu => Turn.keeps_of_isPlain (hus u hu)).1.owned
  exact ⟨fun u hu => (Logbook.parallel_turn hlater howned hu).1, hlater.owners, hlater.byCategory⟩

theorem Waits.sameTrees (h : s.Waits l s') (hs : s.Sound) (hsame : s.registry.config.RestoresAs l) :
    s.SameTrees s' := by
  intro us hus
  have hkeeps : ∀ u ∈ us, u.keeps = true := fun u hu => Turn.keeps_of_isPlain (hus u hu)
  refine (parallel_run h.parallel hs us hus).tree ?_
  rw [(hs.run us hkeeps).2, ((h.sound hs).run us hkeeps).2, h.config]
  exact hsame

theorem Waits.sameButSettings (h : s.Waits l s') (hs : s.Sound) (hsame : s.registry.config.RestoresAs l)
    (hmachine : s'.book.machine = s.book.machine) : s.SameButSettings s' l := by
  intro us hus
  obtain ⟨m, heq⟩ := h.exists_machine
  have hbook : s'.book = s.book.updateConfig l := by
    have hm : m = s.book.machine := by rw [← hmachine, heq]
    rw [heq, hm]
    rfl
  have hlater := book_run_updateConfig hbook hs hsame us hus
  refine ⟨hlater, fun g sink copies severity record => ?_⟩
  rw [registry, hlater]
  show (((s.run us).registry.updateConfig l).writeThrough g sink copies severity record
      (s.run us).book.machine).1 = _
  rw [Registry.writeThrough_updateConfig]

/-- **When settings that wait are seen.** Take any course on which the registry is active, and hand it other
settings, for which resets may fail. Whatever is claimed, released and recorded from then on, every call is
answered as it would have been, and the owners and the index are the same. The live tree is the same after every
turn if and only if the settings restore every category that can be released as those did that the registry had.
Then nothing else tells them apart either, neither on the machine nor in the answer to a record, unless a reset
that failed left something on the machine. -/
theorem pending_unseen_iff (config : Settings.Logging) (m : Machine) (ts : List Turn) (l : Settings.Logging)
    (hactive : ((start config m).run ts).registry.state = .active)
    (hwaits : ((start config m).run ts).Waits l s') :
    let s := (start config m).run ts
    s.AnswersAlike s' ∧
      (s.SameTrees s' ↔ s.registry.config.RestoresAs l) ∧
      (s.registry.config.RestoresAs l → s'.book.machine = s.book.machine → s.SameButSettings s' l) := by
  intro s
  obtain ⟨ho, hl⟩ := owned_and_live_run config m ts
  have hs : s.Sound := ⟨ho, hl, hactive⟩
  exact ⟨hwaits.answersAlike hs, ⟨hwaits.restoresAs hs, hwaits.sameTrees hs⟩, hwaits.sameButSettings hs⟩

/-- A reset that fails: the new log file would stand below the one that is open. -/
theorem pending_unseen_iff_below_the_log :
    let config : Settings.Logging := { file := { path := "host.log" }, loggers := [⟨"a", "info", false⟩] }
    let l : Settings.Logging := { file := { path := "host.log/x" }, loggers := [⟨"a", "debug", false⟩] }
    let m : Machine := { now := ⟨1792231200, 0, 0⟩, fileTime := ⟨1792231200, 0, 0⟩ }
    let s' := (((start config m).run [.init]).take (.updateConfig l)).take .reset
    ((start config m).run [.init]).registry.state = .active ∧
      ((start config m).run [.init]).Waits l s' ∧
      ((start config m).run [.init]).AnswersAlike s' ∧
      (((start config m).run [.init]).SameTrees s' ↔ ((start config m).run [.init]).registry.config.RestoresAs l) ∧
      (((start config m).run [.init]).registry.config.RestoresAs l →
        s'.book.machine = ((start config m).run [.init]).book.machine →
          ((start config m).run [.init]).SameButSettings s' l) := by
  intro config l m s'
  have hactive : ((start config m).run [.init]).registry.state = .active := by decide +kernel
  have hfailed : ((((start config m).run [.init]).take (.updateConfig l)).book.turn .reset).1 =
      .error (.appender .alreadyExists) := by decide +kernel
  have hhanded : ((start config m).run [.init]).Waits l (((start config m).run [.init]).take (.updateConfig l)) :=
    .handed
  have hwaits : ((start config m).run [.init]).Waits l s' := hhanded.refused hfailed
  exact ⟨hactive, hwaits, pending_unseen_iff config m [.init] l hactive hwaits⟩

/-- **Settings that wait, and are seen in a release.** The new settings want a logger at `debug` that those in
effect have at `info`. They are never put into effect, but a module that owned the logger leaves it at `debug`. -/
theorem pending_seen :
    let config : Settings.Logging := { file := { path := "host.log" }, loggers := [⟨"a", "info", false⟩] }
    let l : Settings.Logging := { file := { path := "host.log" }, loggers := [⟨"a", "debug", false⟩] }
    let m : Machine := { now := ⟨1792231200, 0, 0⟩, fileTime := ⟨1792231200, 0, 0⟩ }
    let s := (start config m).run [.init, .claim ⟨"m", .ofList ["a"], .upTo .trace, false⟩]
    let s' := s.take (.updateConfig l)
    s.registry.state = .active ∧
      (s.run [.release "m"]).registry.tree.logger? "a" = some ⟨.upTo .info, false⟩ ∧
      (s'.run [.release "m"]).registry.tree.logger? "a" = some ⟨.upTo .debug, false⟩ ∧ ¬s.SameTrees s' := by
  intro config l m s s'
  have hwithout : (s.run [.release "m"]).registry.tree.logger? "a" = some ⟨.upTo .info, false⟩ := by decide +kernel
  have hwith : (s'.run [.release "m"]).registry.tree.logger? "a" = some ⟨.upTo .debug, false⟩ := by decide +kernel
  refine ⟨by decide +kernel, hwithout, hwith, fun h => ?_⟩
  have htree := h [.release "m"] (by simp [Turn.isPlain])
  rw [htree, hwithout] at hwith
  revert hwith
  decide

end Course

end ModuleHost
