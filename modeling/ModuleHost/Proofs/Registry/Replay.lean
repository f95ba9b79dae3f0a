import Mathlib
import ModuleHost.Proofs.Registry.Rejection

/-!
# Editing a tree and building it anew

Claims and releases edit the live tree; a reset builds it anew from the settings and the owners. A
released category gets the first logger that the settings have for it, a built tree the last.

* `Settings.Logging.Coherent`: the two are the same for every category that can be owned.
* `Registry.settled_iff`: what it takes for the live tree to be the one that a reset would build.
* `Course.settled_iff_coherent`: **edits agree with a rebuild, after any course of them, exactly for
  coherent settings.** Then a reset is not seen in any level or number of copies, and claims that were
  released again leave no trace.
* `Course.not_settled_twice_named`: accepted settings that are not coherent, and what they do.
-/

namespace ModuleHost

/-- Two trees that treat every record alike, wherever they write it. -/
structure LoggerTree.SameLoggers (t t' : LoggerTree) : Prop where
  rootLevel : t.rootLevel = t'.rootLevel
  logger? : ∀ x, t.logger? x = t'.logger? x

namespace LoggerTree

variable {t t' : LoggerTree}

theorem SameLoggers.onPath (h : SameLoggers t t') (target : String) :
    t.onPath target = t'.onPath target := by
  unfold LoggerTree.onPath
  rw [funext h.logger?]

/-- The same level for every target. -/
theorem SameLoggers.effectiveLevel (h : SameLoggers t t') (target : String) :
    t.effectiveLevel target = t'.effectiveLevel target := by
  unfold LoggerTree.effectiveLevel
  rw [h.onPath, h.rootLevel]

/-- The same number of copies for every target. -/
theorem SameLoggers.routeCount (h : SameLoggers t t') (target : String) :
    t.routeCount target = t'.routeCount target := by
  unfold LoggerTree.routeCount
  rw [h.onPath]

end LoggerTree

/-- **Coherent settings**: of the loggers that share a name, blanks aside, the first and the last are
the same. The root's name is left out, since nobody can claim it. -/
def Settings.Logging.Coherent (config : Settings.Logging) : Prop :=
  ∀ x, x ≠ rootCategory → Registry.restored? config x = Registry.configured? config x

/-- The live tree has the loggers of the tree that a reset would build now. -/
def Registry.Settled (r : Registry) : Prop :=
  r.tree.SameLoggers (Registry.builtTree r.config (r.generation + 1) r.owners)

/-- Turns that leave the settings in place and the registry active. -/
def Turn.keeps : Turn → Bool
  | .updateConfig _ => false
  | .stop => false
  | _ => true

namespace Registry

variable {r r' : Registry} {c : Claim} {x owner : String}

/-- **When the live tree is settled**: the root has the level of the settings, and every category that
nobody owns has the logger of the settings. -/
theorem settled_iff (ho : r.Owned) (hs : r.Shows) :
    r.Settled ↔ r.tree.rootLevel = Level.parseOrDebug r.config.rootLevel ∧
      ∀ x, (∀ c ∈ r.owners, x ∉ c.categories.names) → r.tree.logger? x = configured? r.config x := by
  have hroot := (rootLevel_builtTree r.config (r.generation + 1) r.owners).1
  constructor
  · intro h
    refine ⟨h.rootLevel.trans hroot, fun x hx => ?_⟩
    rw [h.logger?, logger?_builtTree_of_free hx]
  · rintro ⟨hr, hfree⟩
    refine ⟨hr.trans hroot.symm, fun x => ?_⟩
    by_cases hx : ∀ c ∈ r.owners, x ∉ c.categories.names
    · rw [hfree x hx, logger?_builtTree_of_free hx]
    · push Not at hx
      obtain ⟨c, hc, hxc⟩ := hx
      rw [hs c hc x hxc, logger?_builtTree_of_mem ho.disjoint hc hxc]

theorem Settled.congr (h : r.Settled) (hk : Alike r r') : r'.Settled := by
  unfold Settled
  rw [hk.tree, hk.config, hk.generation, hk.owners]
  exact h

/-- A granted claim keeps the tree settled. -/
theorem Settled.claim (h : r.Settled) (ho : r.Owned) (hs : r.Shows) (hr : r.claim c = .ok r') :
    r'.Settled := by
  rw [settled_iff (ho.claim hr) (hs.claim ho hr)]
  obtain ⟨hroot, hfree⟩ := (settled_iff ho hs).1 h
  obtain ⟨-, rfl⟩ := claim_ok hr
  refine ⟨(rootLevel_attach _ _).1.trans hroot, fun x hx => ?_⟩
  have hnot : x ∉ (withoutRoot c).categories.names := hx _ (by simp)
  simp only [logger?_attach]
  rw [if_neg hnot]
  exact hfree x (fun d hd => hx d (List.mem_append_left _ hd))

/-- A release keeps the tree settled if the settings are coherent. -/
theorem Settled.release (h : r.Settled) (ho : r.Owned) (hs : r.Shows) (hc : r.config.Coherent)
    (hr : r.release owner = .ok r') : r'.Settled := by
  rw [settled_iff (ho.release hr) (hs.release ho hr)]
  obtain ⟨hroot, hfree⟩ := (settled_iff ho hs).1 h
  obtain ⟨-, ⟨-, rfl⟩ | ⟨c, hcl, rfl⟩⟩ := release_ok hr
  · exact ⟨hroot, hfree⟩
  obtain ⟨hcm, rfl⟩ := mem_of_claimOf? hcl
  refine ⟨(rootLevel_detach _ _).1.trans hroot, fun x hx => ?_⟩
  simp only [logger?_detach]
  split
  · rename_i hxc
    exact hc x (fun hroot => ho.rootless c hcm (hroot ▸ hxc))
  · rename_i hxc
    refine hfree x (fun d hd hxd => ?_)
    by_cases hdo : d.owner = c.owner
    · rw [ho.eq_of_owner hd hcm hdo] at hxd
      exact hxc hxd
    · exact hx d (ho.mem_eraseP.2 ⟨hd, hdo⟩) hxd

/-- If a release leaves the tree settled, the settings agree on what was released. -/
theorem restored?_eq_of_release (ho : r.Owned) (hs : r.Shows) (hcl : r.claimOf? owner = some c)
    (hx : x ∈ c.categories.names) (hr : r.release owner = .ok r') (hset : r'.Settled) :
    restored? r.config x = configured? r.config x := by
  obtain ⟨-, hfree⟩ := (settled_iff (ho.release hr) (hs.release ho hr)).1 hset
  obtain ⟨-, ⟨hnone, -⟩ | ⟨c', hcl', rfl⟩⟩ := release_ok hr
  · rw [hcl] at hnone
    cases hnone
  obtain rfl := Option.some.inj (hcl.symm.trans hcl')
  obtain ⟨hcm, rfl⟩ := mem_of_claimOf? hcl
  have hgone : ∀ d ∈ r.owners.eraseP (fun o => o.owner == c.owner), x ∉ d.categories.names := by
    intro d hd hxd
    obtain ⟨hdm, hne⟩ := ho.mem_eraseP.1 hd
    exact hne (congrArg Claim.owner (ho.eq_of_mem hdm hcm hxd hx))
  have hlook := hfree x hgone
  simp only [logger?_detach] at hlook
  rw [if_pos hx] at hlook
  exact hlook

/-- A settled tree depends on who owns what, and not on the order in which the owners came. -/
theorem Settled.sameLoggers_of_perm (h : r.Settled) (h' : r'.Settled) (ho : r.Owned) (hs : r.Shows)
    (ho' : r'.Owned) (hs' : r'.Shows) (hconfig : r'.config = r.config)
    (hp : r'.owners.Perm r.owners) : r'.tree.SameLoggers r.tree := by
  obtain ⟨hroot, hfree⟩ := (settled_iff ho hs).1 h
  obtain ⟨hroot', hfree'⟩ := (settled_iff ho' hs').1 h'
  rw [hconfig] at hroot' hfree'
  refine ⟨hroot'.trans hroot.symm, fun x => ?_⟩
  by_cases hx : ∀ c ∈ r.owners, x ∉ c.categories.names
  · rw [hfree x hx, hfree' x (fun c hc => hx c (hp.mem_iff.1 hc))]
  · push Not at hx
    obtain ⟨c, hc, hxc⟩ := hx
    rw [hs c hc x hxc, hs' c (hp.mem_iff.2 hc) x hxc]

/-- A new generation is settled. -/
theorem Rebuilt.settled (h : Rebuilt r r') (ho : r.Owned) : r'.Settled := by
  have ho' : r'.Owned := ho.congr h.owners h.byCategory
  rw [settled_iff ho' (h.shows ho), h.tree, h.config, h.owners]
  exact ⟨(rootLevel_builtTree _ _ _).1, fun x hx => logger?_builtTree_of_free hx⟩

end Registry

namespace Course

open Registry (Alike Untouched)

variable {s : Course} {t : Turn} {c : Claim} {x : String}

/-- The registry stays active, with its settings. -/
theorem active_take (ha : s.registry.state = .active) (hk : t.keeps = true) :
    (s.take t).registry.state = .active ∧ (s.take t).registry.config = s.registry.config := by
  rw [registry, take_book]
  cases hx : (s.book.turn t).1 with
  | error e =>
    have hu := Logbook.turn_error hx
    exact ⟨hu.state.trans ha, hu.config⟩
  | ok u =>
    cases Logbook.turn_ok hx with
    | records _ hu => exact ⟨hu.state.trans ha, hu.config⟩
    | claim hr hu =>
      have h := (Registry.claim_ok hr).2
      exact ⟨hu.state.trans (by rw [h]; exact ha), hu.config.trans (by rw [h])⟩
    | release _ hr hu =>
      obtain ⟨-, ⟨-, h⟩ | ⟨c, -, h⟩⟩ := Registry.release_ok hr <;>
        exact ⟨hu.state.trans (by rw [h]; exact ha), hu.config.trans (by rw [h])⟩
    | build _ hr ha' hu => exact ⟨hu.state.trans ha', hu.config.trans hr.config⟩
    | config config => cases hk
    | stop _ => cases hk

/-- **One turn** keeps the tree settled if the settings are coherent. -/
theorem settled_take (ho : s.registry.Owned) (hl : s.Live) (ha : s.registry.state = .active)
    (hc : s.registry.config.Coherent) (h : s.registry.Settled) (hk : t.keeps = true) :
    (s.take t).registry.Settled := by
  have hs := hl.shows ha
  rw [registry, take_book]
  cases hx : (s.book.turn t).1 with
  | error e => exact h.congr (Logbook.turn_error hx).toAlike
  | ok u =>
    cases Logbook.turn_ok hx with
    | records _ hu => exact h.congr hu.toAlike
    | claim hr hu => exact (h.claim ho hs hr).congr hu.toAlike
    | release _ hr hu => exact (h.release ho hs hc hr).congr hu.toAlike
    | build _ hr _ hu => exact (hr.settled ho).congr hu.toAlike
    | config config => cases hk
    | stop _ => cases hk

/-- A course on which the registry is active, with everything in agreement. -/
structure Sound (s : Course) : Prop where
  owned : s.registry.Owned
  live : s.Live
  active : s.registry.state = .active

theorem Sound.shows (h : s.Sound) : s.registry.Shows := h.live.shows h.active

theorem Sound.take (h : s.Sound) (hk : t.keeps = true) :
    (s.take t).Sound ∧ (s.take t).registry.config = s.registry.config := by
  obtain ⟨ho, hl⟩ := owned_take h.owned h.live t
  obtain ⟨ha, hc⟩ := active_take h.active hk
  exact ⟨⟨ho, hl, ha⟩, hc⟩

theorem Sound.run (h : s.Sound) (us : List Turn) (hus : ∀ u ∈ us, u.keeps = true) :
    (s.run us).Sound ∧ (s.run us).registry.config = s.registry.config := by
  induction us generalizing s with
  | nil => exact ⟨h, rfl⟩
  | cons u us ih =>
    obtain ⟨h', hc⟩ := h.take (hus u List.mem_cons_self)
    obtain ⟨h1, h2⟩ := ih h' (fun v hv => hus v (List.mem_cons_of_mem _ hv))
    exact ⟨h1, h2.trans hc⟩

/-- **Edits keep the tree settled** if the settings are coherent. -/
theorem Sound.settled_run (h : s.Sound) (hc : s.registry.config.Coherent) (hset : s.registry.Settled)
    (us : List Turn) (hus : ∀ u ∈ us, u.keeps = true) : (s.run us).registry.Settled := by
  induction us generalizing s with
  | nil => exact hset
  | cons u us ih =>
    have hu := hus u List.mem_cons_self
    obtain ⟨h', hconfig⟩ := h.take hu
    have hset' := settled_take h.owned h.live h.active hc hset hu
    refine ih h' ?_ hset' (fun v hv => hus v (List.mem_cons_of_mem _ hv))
    rw [hconfig]
    exact hc

/-- Releasing an owned category is the test: the settings must agree on it. -/
theorem Sound.agree_of_release (h : s.Sound) (hc : c ∈ s.registry.owners)
    (hx : x ∈ c.categories.names) (hset : (s.take (.release c.owner)).registry.Settled) :
    Registry.restored? s.registry.config x = Registry.configured? s.registry.config x := by
  have hcl : s.registry.claimOf? c.owner = some c := by
    cases hf : s.registry.claimOf? c.owner with
    | none =>
      have := List.find?_eq_none.1 hf c hc
      simp at this
    | some d =>
      obtain ⟨hd, hdo⟩ := Registry.mem_of_claimOf? hf
      rw [h.owned.eq_of_owner hd hc hdo]
  obtain ⟨r, hr⟩ : ∃ r, s.registry.release c.owner = .ok r := by
    unfold Registry.release Registry.ensureActive
    rw [if_pos h.active]
    simp only [hcl]
    exact ⟨_, rfl⟩
  have hu := ((s.book.release_spec c.owner).2 r hr).2
  rw [registry, take_book] at hset
  exact Registry.restored?_eq_of_release h.owned h.shows hcl hx hr (hset.congr hu.toAlike.symm)

/-- A free category can be claimed by somebody. -/
theorem Sound.exists_claim (h : s.Sound) (hx : x ≠ rootCategory)
    (hfree : ∀ c ∈ s.registry.owners, x ∉ c.categories.names) :
    ∃ c d, d ∈ (s.take (.claim c)).registry.owners ∧ x ∈ d.categories.names := by
  -- ids are texts, and only so many are taken
  obtain ⟨owner, howner⟩ := Infinite.exists_notMem_finset (s.registry.owners.map (·.owner)).toFinset
  let c : Claim := { owner, categories := .ofList [x], level := .off }
  have hwants : ∀ y, c.Wants y ↔ y = x := by
    intro y
    unfold Claim.Wants
    rw [Categories.mem_ofList, List.mem_singleton]
    constructor
    · exact fun hy => hy.1
    · rintro rfl
      exact ⟨rfl, hx⟩
  have hgrants : s.registry.Grants c := by
    refine ⟨h.active, ⟨x, (hwants x).2 rfl⟩, ?_, ?_⟩
    · rintro ⟨d, hd, hdo⟩
      exact howner (List.mem_toFinset.2 (List.mem_map.2 ⟨d, hd, hdo⟩))
    · intro y hy
      obtain rfl := (hwants y).1 hy
      rintro ⟨o, d, hd, -, hyd⟩
      exact hfree d hd hyd
  have hn := (Registry.grants_iff h.owned).2 hgrants
  obtain ⟨r, hr⟩ : ∃ r, s.registry.claim c = .ok r := by
    unfold Registry.claim
    rw [hn]
    exact ⟨_, rfl⟩
  have hgains := (Registry.gains_of_claim h.owned hr).congr ((s.book.claim_spec c).2 r hr).2.toAlike
  refine ⟨c, Registry.withoutRoot c, ?_, Registry.mem_withoutRoot.2 ((hwants x).2 rfl)⟩
  rw [registry, take_book]
  rw [show (s.book.turn (.claim c)).2 = (s.book.claim c).2 from rfl, hgains.owners]
  simp

/-- If edits never unsettle the tree, the settings are coherent. -/
theorem Sound.coherent_of_settled (h : s.Sound)
    (hset : ∀ us, (∀ u ∈ us, u.keeps = true) → (s.run us).registry.Settled) :
    s.registry.config.Coherent := by
  intro x hx
  -- a free category is claimed first, so that it can be released
  by_cases hfree : ∀ c ∈ s.registry.owners, x ∉ c.categories.names
  · obtain ⟨c, d, hd, hxd⟩ := h.exists_claim hx hfree
    obtain ⟨h', hconfig⟩ := h.take (t := .claim c) rfl
    have hset' := hset [.claim c, .release d.owner] (by simp [Turn.keeps])
    have := Sound.agree_of_release h' hd hxd hset'
    rw [hconfig] at this
    exact this
  · push Not at hfree
    obtain ⟨c, hc, hxc⟩ := hfree
    exact h.agree_of_release hc hxc (hset [.release c.owner] (by simp [Turn.keeps]))

/-- A reset changes no owner, whether it succeeds or not. -/
theorem owners_take_reset (s : Course) : (s.take .reset).registry.owners = s.registry.owners := by
  rw [registry, take_book]
  cases hx : (s.book.turn .reset).1 with
  | error e => exact (Logbook.turn_error hx).owners
  | ok u =>
    cases Logbook.turn_ok hx with
    | records hb _ => cases hb
    | release ht _ _ => rcases ht with ht | ht <;> cases ht
    | build _ hr _ hu => exact hu.owners.trans hr.owners

/-- **A claim that is granted and released again** leaves the owners as they were, and the tree with the
same outputs. -/
theorem Sound.owners_claim_release (h : s.Sound) (hok : (s.book.claim c).1 = .ok ()) :
    (s.run [.claim c, .release c.owner]).registry.owners = s.registry.owners ∧
      (s.run [.claim c, .release c.owner]).registry.tree.attached = s.registry.tree.attached := by
  obtain ⟨r, hr⟩ : ∃ r, s.registry.claim c = .ok r := by
    cases hr : s.registry.claim c with
    | ok r => exact ⟨r, rfl⟩
    | error e =>
      rw [((s.book.claim_spec c).1 e hr).1] at hok
      cases hok
  have hu := ((s.book.claim_spec c).2 r hr).2
  obtain ⟨hn, hrc⟩ := Registry.claim_ok hr
  obtain ⟨-, -, hnew, -⟩ := Registry.refusal?_eq_none_iff.1 hn
  set s₁ := s.take (.claim c) with hs₁
  have hreg : s₁.registry = (s.book.claim c).2.registry := by rw [hs₁, registry, take_book]; rfl
  obtain ⟨h₁, -⟩ := h.take (t := .claim c) rfl
  have howners : s₁.registry.owners = s.registry.owners ++ [Registry.withoutRoot c] := by
    rw [hreg, hu.owners, hrc]
  have hattached : s₁.registry.tree.attached = s.registry.tree.attached := by
    rw [hreg, hu.tree, hrc]
    exact (Registry.rootLevel_attach _ _).2
  -- the id was new, so the release finds the claim that was just granted
  have herase : s₁.registry.owners.eraseP (fun o => o.owner == c.owner) = s.registry.owners := by
    rw [howners, List.eraseP_append_right]
    · simp [Registry.withoutRoot]
    · intro d hd
      simpa using hnew d hd
  have hrun : (s.run [.claim c, .release c.owner]).registry = (s₁.book.release c.owner).2.registry := by
    rw [run_cons, run_cons, run_nil, registry, take_book]
    rfl
  rw [hrun]
  obtain ⟨r₂, hr₂⟩ : ∃ r₂, s₁.registry.release c.owner = .ok r₂ := by
    unfold Registry.release Registry.ensureActive
    rw [if_pos h₁.active]
    simp only
    split <;> exact ⟨_, rfl⟩
  have hu₂ := ((s₁.book.release_spec c.owner).2 r₂ hr₂).2
  obtain ⟨-, ⟨hnone, -⟩ | ⟨d, -, hd⟩⟩ := Registry.release_ok hr₂
  · have := List.find?_eq_none.1 hnone (Registry.withoutRoot c) (by rw [howners]; simp)
    simp [Registry.withoutRoot] at this
  · refine ⟨?_, ?_⟩
    · rw [hu₂.owners, hd]
      exact herase
    · rw [hu₂.tree, hd, ← hattached]
      exact (Registry.rootLevel_detach _ _).2

/-- **Edits agree with a rebuild exactly for coherent settings.** Take any course up to a start or reset
that succeeds. Whatever is claimed and released from then on, with whatever else happens but new settings
or a stop, the live tree has the loggers that a reset would build, if and only if the settings are
coherent. Then a reset is seen in no level and in no number of copies; whenever the owners are again
those of before, so is the tree; and a claim that is granted and released leaves no trace at all. -/
theorem settled_iff_coherent (config : Settings.Logging) (m : Machine) (ts : List Turn) (t : Turn)
    (hb : t.builds = true) (hok : (((start config m).run ts).book.turn t).1 = .ok ()) :
    let s := ((start config m).run ts).take t
    (∀ us, (∀ u ∈ us, u.keeps = true) →
      let s₁ := s.run us
      s₁.registry.Settled ∧
      (∀ target,
        (s₁.take .reset).registry.tree.effectiveLevel target = s₁.registry.tree.effectiveLevel target ∧
        (s₁.take .reset).registry.tree.routeCount target = s₁.registry.tree.routeCount target) ∧
      (∀ vs, (∀ v ∈ vs, v.keeps = true) → (s₁.run vs).registry.owners.Perm s₁.registry.owners →
        (s₁.run vs).registry.tree.SameLoggers s₁.registry.tree) ∧
      ∀ c, (s₁.book.claim c).1 = .ok () →
        let s₂ := s₁.run [.claim c, .release c.owner]
        s₂.registry.owners = s₁.registry.owners ∧
          s₂.registry.tree.attached = s₁.registry.tree.attached ∧
          s₂.registry.tree.SameLoggers s₁.registry.tree) ↔
    s.registry.config.Coherent := by
  intro s
  obtain ⟨ho, hl⟩ := owned_and_live_run config m ts
  obtain ⟨ho', hl'⟩ := owned_take ho hl t
  have hbuilt : s.registry.state = .active ∧ s.registry.Settled := by
    rw [registry, take_book]
    cases Logbook.turn_ok hok with
    | records hb' _ => rw [hb] at hb'; cases hb'
    | claim _ _ => cases hb
    | release ht _ _ => rcases ht with rfl | rfl <;> cases hb
    | build _ hr ha hu => exact ⟨hu.state.trans ha, (hr.settled ho).congr hu.toAlike⟩
    | config _ => cases hb
    | stop _ => cases hb
  have hs : s.Sound := ⟨ho', hl', hbuilt.1⟩
  constructor
  · intro h
    exact hs.coherent_of_settled (fun us hus => (h us hus).1)
  · intro hc us hus
    -- a reset, and a claim with its release, are runs that end with the same owners
    obtain ⟨h₁, hconfig⟩ := hs.run us hus
    have hset := hs.settled_run hc hbuilt.2 us hus
    have hc₁ : (s.run us).registry.config.Coherent := by rw [hconfig]; exact hc
    have key : ∀ vs, (∀ v ∈ vs, v.keeps = true) →
        ((s.run us).run vs).registry.owners.Perm (s.run us).registry.owners →
        ((s.run us).run vs).registry.tree.SameLoggers (s.run us).registry.tree := by
      intro vs hvs hp
      obtain ⟨h₂, hconfig₂⟩ := h₁.run vs hvs
      exact hset.sameLoggers_of_perm (h₁.settled_run hc₁ hset vs hvs) h₁.owned h₁.shows h₂.owned h₂.shows
        hconfig₂ hp
    refine ⟨hset, ?_, key, ?_⟩
    · intro target
      have hsame := key [.reset] (by simp [Turn.keeps]) (by rw [run_cons, run_nil, owners_take_reset])
      exact ⟨hsame.effectiveLevel target, hsame.routeCount target⟩
    · intro c hgranted
      obtain ⟨howners, hattached⟩ := h₁.owners_claim_release hgranted
      exact ⟨howners, hattached, key _ (by simp [Turn.keeps]) (by rw [howners])⟩

/-- A course that starts at once: no turn beforehand, settings with one logger, an empty disk. -/
theorem settled_iff_coherent_fresh :
    let config : Settings.Logging :=
      { file := { path := "host.log" }, loggers := [⟨" com.acme ", "debug", true⟩] }
    let m : Machine := { now := ⟨1792231200, 0, 0⟩, fileTime := ⟨1792231200, 0, 0⟩ }
    (((start config m).run []).book.turn .init).1 = .ok () ∧
      ((∀ us, (∀ u ∈ us, u.keeps = true) →
        let s₁ := (((start config m).run []).take .init).run us
        s₁.registry.Settled ∧
        (∀ target,
          (s₁.take .reset).registry.tree.effectiveLevel target =
            s₁.registry.tree.effectiveLevel target ∧
          (s₁.take .reset).registry.tree.routeCount target = s₁.registry.tree.routeCount target) ∧
        (∀ vs, (∀ v ∈ vs, v.keeps = true) → (s₁.run vs).registry.owners.Perm s₁.registry.owners →
          (s₁.run vs).registry.tree.SameLoggers s₁.registry.tree) ∧
        ∀ c, (s₁.book.claim c).1 = .ok () →
          let s₂ := s₁.run [.claim c, .release c.owner]
          s₂.registry.owners = s₁.registry.owners ∧
            s₂.registry.tree.attached = s₁.registry.tree.attached ∧
            s₂.registry.tree.SameLoggers s₁.registry.tree) ↔
      (((start config m).run []).take .init).registry.config.Coherent) := by
  intro config m
  have hok : (((start config m).run []).book.turn .init).1 = .ok () := by decide +kernel
  exact ⟨hok, settled_iff_coherent config m [] .init rfl hok⟩

/-- **Accepted settings that a release does not give back.** They name one logger twice, first with
`info` and then with `debug`. Claimed and released, it stays at `info`, where a reset has `debug`. -/
theorem not_settled_twice_named :
    let config : Settings.Logging :=
      { file := { path := "host.log" }, loggers := [⟨"a", "info", false⟩, ⟨"a", "debug", false⟩] }
    let m : Machine := { now := ⟨1792231200, 0, 0⟩, fileTime := ⟨1792231200, 0, 0⟩ }
    let s := (start config m).run [.init, .claim ⟨"m", .ofList ["a"], .upTo .trace, false⟩, .release "m"]
    config.Valid ∧ s.registry.state = .active ∧
      s.registry.tree.logger? "a" = some ⟨.upTo .info, false⟩ ∧
      (s.take .reset).registry.tree.logger? "a" = some ⟨.upTo .debug, false⟩ ∧ ¬s.registry.Settled := by
  intro config m s
  refine ⟨by decide +kernel, by decide +kernel, by decide +kernel, by decide +kernel, fun h => ?_⟩
  have hlook := h.logger? "a"
  revert hlook
  decide +kernel

end Course

end ModuleHost
