import Mathlib
import ModuleHost.Proofs.Registry.Frame
import ModuleHost.Proofs.Registry.Course

/-!
# What each call does

One statement a call: what a call that was answered with `ok` made of the registry, and that a refused
one left it untouched.

* `Registry.refusal?_eq_none_iff`: when a claim is granted.
* `Registry.claim_ok`, `Registry.release_ok`, `Registry.init_ok`, `Registry.reset_ok`: what comes out.
* `Logbook.claim_spec`, `Logbook.release_spec`: the same for the registry on a machine, which reports
  what it does by way of its own outputs.
* `Logbook.turn_error`: **a refused call leaves the registry untouched**, whichever call it is.
-/

namespace ModuleHost

namespace Registry

variable {r r' : Registry} {c d : Claim} {owner : String} {m m' : Machine} {e : RegistryError}

/-- **A category belongs to an owner.** -/
def Owns (r : Registry) (owner category : String) : Prop :=
  ∃ c ∈ r.owners, c.owner = owner ∧ category ∈ c.categories.names

theorem contested?_eq_none_iff {names : List String} :
    r.contested? names = none ↔ ∀ x ∈ names, r.byCategory.get? x = none := by
  simp [contested?]

/-- Only the empty set and that of the root have nothing but the root. -/
theorem erase_root_eq_nil_iff (s : Categories) :
    (s.erase rootCategory).names = [] ↔ s.names = [] ∨ s.names = [rootCategory] := by
  constructor
  · intro h
    have hall : ∀ x ∈ s.names, x = rootCategory := by
      intro x hx
      by_contra hne
      have hmem := Categories.mem_erase.2 ⟨hx, hne⟩
      rw [h] at hmem
      simp at hmem
    rcases hn : s.names with _ | ⟨a, as⟩
    · exact Or.inl rfl
    · right
      have hs := s.sorted
      rw [hn] at hs hall
      obtain rfl := hall a List.mem_cons_self
      rcases as with _ | ⟨b, bs⟩
      · rfl
      · obtain rfl := hall b (by simp)
        exact absurd ((List.pairwise_cons.1 hs).1 _ List.mem_cons_self) (String.lt_irrefl _)
  · rintro (h | h) <;> simp [Categories.erase, h]

/-- **When a claim is granted**: by an active registry, to an owner who is not known yet, for at least
one category besides the root and none that is taken. -/
theorem refusal?_eq_none_iff :
    r.refusal? c = none ↔
      r.state = .active ∧ (withoutRoot c).categories.names ≠ [] ∧
        (∀ d ∈ r.owners, d.owner ≠ c.owner) ∧
        ∀ x ∈ (withoutRoot c).categories.names, r.byCategory.get? x = none := by
  have hnil := erase_root_eq_nil_iff c.categories
  unfold refusal? withoutRoot
  simp only
  split
  · rename_i h; simp [h]
  rename_i hs
  split
  · rename_i h; simp [Categories.erase, h]
  rename_i hn
  split
  · rename_i h; simp [Categories.erase, h]
  rename_i hr
  have hne : (c.categories.erase rootCategory).names ≠ [] := fun h => (hnil.1 h).elim hn hr
  split
  · rename_i h
    simp only [List.any_eq_true, beq_iff_eq] at h
    obtain ⟨d, hd, hdo⟩ := h
    simp only [reduceCtorEq, false_iff]
    exact fun h => h.2.2.1 d hd hdo
  · rename_i h
    simp only [List.any_eq_true, beq_iff_eq, not_exists, not_and] at h
    rw [Option.map_eq_none_iff, contested?_eq_none_iff]
    exact ⟨fun hx => ⟨not_not.1 hs, hne, h, hx⟩, fun hx => hx.2.2.2⟩

/-- What a granted claim makes of the registry. -/
theorem claim_ok (h : r.claim c = .ok r') :
    r.refusal? c = none ∧
      r' = { r with
        owners := r.owners ++ [withoutRoot c]
        byCategory := (withoutRoot c).categories.names.foldl (fun t x => t.insert x c.owner) r.byCategory
        tree := attach r.tree (withoutRoot c) } := by
  unfold claim at h
  split at h
  · cases h
  · rename_i hn
    exact ⟨hn, (Except.ok.inj h).symm⟩

/-- What a release makes of the registry: nothing, or the owner and the categories are gone. -/
theorem release_ok (h : r.release owner = .ok r') :
    r.state = .active ∧
      ((r.claimOf? owner = none ∧ r' = r) ∨
        ∃ c, r.claimOf? owner = some c ∧
          r' = { r with
            owners := r.owners.eraseP (fun o => o.owner == owner)
            byCategory := c.categories.names.foldl (fun t x => t.erase x) r.byCategory
            tree := detach r.config r.tree c }) := by
  unfold release ensureActive at h
  by_cases hs : r.state = .active
  · rw [if_pos hs] at h
    refine ⟨hs, ?_⟩
    simp only at h
    split at h
    · rename_i hc
      exact Or.inl ⟨hc, (Except.ok.inj h).symm⟩
    · rename_i c hc
      exact Or.inr ⟨c, hc, (Except.ok.inj h).symm⟩
  · rw [if_neg hs] at h
    cases h

/-- **A registry with the next generation of outputs.** -/
structure Rebuilt (r r' : Registry) : Prop where
  owners : r'.owners = r.owners
  byCategory : r'.byCategory = r.byCategory
  config : r'.config = r.config
  generation : r'.generation = r.generation + 1
  tree : r'.tree = builtTree r.config (r.generation + 1) r.owners

theorem rebuild_ok (h : r.rebuild m = (.ok r', m')) : Rebuilt r r' ∧ r'.state = r.state := by
  unfold rebuild at h
  split at h
  · cases h
  · rename_i a m₁ _
    simp only at h
    generalize hn : ({ r with
      tree := builtTree r.config (r.generation + 1) r.owners
      generation := r.generation + 1
      sets := a :: r.sets } : Registry) = next at h
    have hk := alike_stopSet next r.tree.attached m₁
    cases h
    subst hn
    exact ⟨⟨hk.owners, hk.byCategory, hk.config, hk.generation, hk.tree⟩, hk.state⟩

theorem init_ok (h : r.init m = (.ok r', m')) :
    r.state = .uninitialized ∧ Rebuilt r r' ∧ r'.state = .active := by
  unfold init at h
  split at h
  · cases h
  · rename_i hs
    split at h
    · cases h
    · rename_i r₁ m₁ hr
      obtain ⟨hb, -⟩ := rebuild_ok hr
      cases h
      exact ⟨not_not.1 hs, ⟨hb.owners, hb.byCategory, hb.config, hb.generation, hb.tree⟩, rfl⟩

theorem reset_ok (h : r.reset m = (.ok r', m')) :
    r.state = .active ∧ Rebuilt r r' ∧ r'.state = .active := by
  unfold reset ensureActive at h
  by_cases hs : r.state = .active
  · rw [if_pos hs] at h
    obtain ⟨hb, hs'⟩ := rebuild_ok h
    exact ⟨hs, hb, hs'.trans hs⟩
  · rw [if_neg hs] at h
    cases h

/-- What a stop makes of the registry. -/
theorem alike_stop (r : Registry) (m : Machine) :
    (r.state = .stopped ∧ (r.stop m).1 = r) ∨
      Alike { r with state := .stopped, tree := .detached } (r.stop m).1 := by
  unfold stop
  split
  · rename_i h
    exact Or.inl ⟨h, rfl⟩
  · exact Or.inr (alike_stopSet _ _ m)

/-- A claim is answered by the owners, the index and the state alone. -/
theorem refusal?_congr (h : Alike r r') (c : Claim) : r'.refusal? c = r.refusal? c := by
  unfold refusal? contested?
  rw [h.state, h.owners, h.byCategory]

theorem claim_congr (h : Untouched r r') (c : Claim) :
    (∀ e, r.claim c = .error e → r'.claim c = .error e) ∧
      ∀ r₁, r.claim c = .ok r₁ → ∃ r₂, r'.claim c = .ok r₂ ∧ Untouched r₁ r₂ := by
  have hr := refusal?_congr h.toAlike c
  unfold claim
  rw [hr]
  cases r.refusal? c with
  | some e =>
    constructor
    · intro e' he
      cases he
      rfl
    · intro r₁ he
      cases he
  | none =>
    constructor
    · intro e' he
      cases he
    intro r₁ he
    cases he
    refine ⟨_, rfl, ?_⟩
    exact ⟨⟨h.state, by simp [h.owners], by simp [h.byCategory], h.config, h.generation,
      by simp [h.tree]⟩, h.stopped⟩

end Registry

namespace Logbook

open Registry (Alike Untouched Rebuilt)

variable {b : Logbook} {c : Claim} {owner : String} {e : RegistryError} {r : Registry}

theorem warnOfRoot_untouched (b : Logbook) (c : Claim) :
    Untouched b.registry (b.warnOfRoot c).registry := by
  unfold warnOfRoot
  split
  · exact say_untouched b _ _ _
  · exact Untouched.refl _

/-- **A claim on a machine** is answered as the registry answers it, and what is reported about it
leaves the registry untouched. -/
theorem claim_spec (b : Logbook) (c : Claim) :
    (∀ e, b.registry.claim c = .error e →
        (b.claim c).1 = .error e ∧ Untouched b.registry (b.claim c).2.registry) ∧
      ∀ r, b.registry.claim c = .ok r →
        (b.claim c).1 = .ok () ∧ Untouched r (b.claim c).2.registry := by
  have hw := warnOfRoot_untouched b c
  obtain ⟨herr, hok⟩ := Registry.claim_congr hw c
  unfold claim grant
  constructor
  · intro e he
    rw [herr e he]
    exact ⟨rfl, hw⟩
  · intro r hr
    obtain ⟨r₂, hr₂, hu⟩ := hok r hr
    rw [hr₂]
    exact ⟨rfl, hu.trans (say_untouched { b.warnOfRoot c with registry := r₂ } _ _ _)⟩

/-- **A release on a machine.** -/
theorem release_spec (b : Logbook) (owner : String) :
    (∀ e, b.registry.release owner = .error e →
        (b.release owner).1 = .error e ∧ Untouched b.registry (b.release owner).2.registry) ∧
      ∀ r, b.registry.release owner = .ok r →
        (b.release owner).1 = .ok () ∧ Untouched r (b.release owner).2.registry := by
  unfold release
  constructor
  · intro e he
    rw [he]
    exact ⟨rfl, Untouched.refl _⟩
  · intro r hr
    rw [hr]
    obtain ⟨-, ⟨hc, rfl⟩ | ⟨c, hc, -⟩⟩ := Registry.release_ok hr
    · rw [hc]
      exact ⟨rfl, Untouched.refl _⟩
    · rw [hc]
      exact ⟨rfl, say_untouched { b with registry := r } _ _ _⟩

/-- **A host event** is a release or nothing to a registry. -/
theorem hear_spec (b : Logbook) (event : HostEvent) :
    Untouched b.registry (b.hear event).registry ∨
      ∃ owner r, event = .moduleStopped owner ∧ b.registry.release owner = .ok r ∧
        Untouched r (b.hear event).registry := by
  cases event with
  | moduleStopped owner =>
    obtain ⟨herr, hok⟩ := b.release_spec owner
    unfold hear
    simp only
    cases hr : b.registry.release owner with
    | error e =>
      left
      obtain ⟨h1, h2⟩ := herr e hr
      split
      · rename_i b₁ hb
        rw [hb] at h1
        cases h1
      · rename_i e' b₁ hb
        rw [hb] at h2
        exact h2.trans (say_untouched b₁ _ _ _)
    | ok r =>
      right
      obtain ⟨h1, h2⟩ := hok r hr
      refine ⟨owner, r, rfl, hr, ?_⟩
      split
      · rename_i b₁ hb
        rw [hb] at h2
        exact h2
      · rename_i e' b₁ hb
        rw [hb] at h1
        cases h1
  | _ => exact Or.inl (Untouched.refl _)

/-- A start or a reset that succeeds. -/
theorem init_spec (b : Logbook) :
    (∀ e, b.init.1 = .error e → b.init.2.registry = b.registry) ∧
      (b.init.1 = .ok () → b.registry.state = .uninitialized ∧
        ∃ r, Rebuilt b.registry r ∧ r.state = .active ∧ Untouched r b.init.2.registry) := by
  unfold init
  split
  · exact ⟨fun _ _ => rfl, fun h => by cases h⟩
  · rename_i r m hr
    obtain ⟨hs, hb, ha⟩ := Registry.init_ok hr
    refine ⟨fun _ h => (by cases h), fun _ => ⟨hs, r, hb, ha, ?_⟩⟩
    exact say_untouched { b with machine := m, registry := r } _ _ _

theorem reset_spec (b : Logbook) :
    (∀ e, b.reset.1 = .error e → b.reset.2.registry = b.registry) ∧
      (b.reset.1 = .ok () → b.registry.state = .active ∧
        ∃ r, Rebuilt b.registry r ∧ r.state = .active ∧ Untouched r b.reset.2.registry) := by
  unfold reset
  split
  · exact ⟨fun _ _ => rfl, fun h => by cases h⟩
  · rename_i r m hr
    obtain ⟨hs, hb, ha⟩ := Registry.reset_ok hr
    refine ⟨fun _ h => (by cases h), fun _ => ⟨hs, r, hb, ha, ?_⟩⟩
    exact say_untouched { b with machine := m, registry := r } _ _ _

end Logbook

/-! ### All turns -/

/-- **What a turn can make of a registry** when it is answered with `ok`. -/
inductive Registry.Change (r : Registry) : Turn → Registry → Prop where
  | records {t : Turn} {r' : Registry} : t.builds = false → Untouched r r' → Change r t r'
  | claim {c : Claim} {r₁ r' : Registry} : r.claim c = .ok r₁ → Untouched r₁ r' →
      Change r (.claim c) r'
  | release {t : Turn} {owner : String} {r₁ r' : Registry} :
      t = .release owner ∨ t = .hear (.moduleStopped owner) →
      r.release owner = .ok r₁ → Untouched r₁ r' → Change r t r'
  | build {t : Turn} {r₁ r' : Registry} : t.builds = true → Rebuilt r r₁ → r₁.state = .active →
      Untouched r₁ r' → Change r t r'
  | config (config : Settings.Logging) : Change r (.updateConfig config) (r.updateConfig config)
  | stop {r' : Registry} : Alike { r with state := .stopped, tree := .detached } r' →
      Change r .stop r'

namespace Logbook

open Registry (Alike Untouched Change)

variable {b : Logbook} {t : Turn} {e : RegistryError}

/-- **A refused call leaves the registry untouched.** -/
theorem turn_error (h : (b.turn t).1 = .error e) : Untouched b.registry (b.turn t).2.registry := by
  cases t with
  | init =>
    have := b.init_spec.1 e h
    show Untouched b.registry b.init.2.registry
    rw [this]
    exact Untouched.refl _
  | reset =>
    have := b.reset_spec.1 e h
    show Untouched b.registry b.reset.2.registry
    rw [this]
    exact Untouched.refl _
  | claim c =>
    obtain ⟨herr, hok⟩ := b.claim_spec c
    cases hr : b.registry.claim c with
    | error e' => exact (herr e' hr).2
    | ok r =>
      have h' : (b.claim c).1 = .error e := h
      rw [(hok r hr).1] at h'
      cases h'
  | release owner =>
    obtain ⟨herr, hok⟩ := b.release_spec owner
    cases hr : b.registry.release owner with
    | error e' => exact (herr e' hr).2
    | ok r =>
      have h' : (b.release owner).1 = .error e := h
      rw [(hok r hr).1] at h'
      cases h'
  | _ => cases h

/-- **Every turn that is answered with `ok`** makes one of the known changes. -/
theorem turn_ok (h : (b.turn t).1 = .ok ()) : Change b.registry t (b.turn t).2.registry := by
  cases t with
  | init =>
    obtain ⟨-, r, hb, ha, hu⟩ := b.init_spec.2 h
    exact .build rfl hb ha hu
  | reset =>
    obtain ⟨-, r, hb, ha, hu⟩ := b.reset_spec.2 h
    exact .build rfl hb ha hu
  | claim c =>
    obtain ⟨herr, hok⟩ := b.claim_spec c
    cases hr : b.registry.claim c with
    | error e =>
      have h' : (b.claim c).1 = .ok () := h
      rw [(herr e hr).1] at h'
      cases h'
    | ok r => exact .claim hr (hok r hr).2
  | release owner =>
    obtain ⟨herr, hok⟩ := b.release_spec owner
    cases hr : b.registry.release owner with
    | error e =>
      have h' : (b.release owner).1 = .ok () := h
      rw [(herr e hr).1] at h'
      cases h'
    | ok r => exact .release (Or.inl rfl) hr (hok r hr).2
  | hear event =>
    rcases b.hear_spec event with hu | ⟨owner, r, rfl, hr, hu⟩
    · exact .records rfl hu
    · exact .release (Or.inr rfl) hr hu
  | updateConfig config => exact .config config
  | stop =>
    have hs : (b.turn .stop).2.registry = (b.registry.stop b.machine).1 := rfl
    rw [hs]
    rcases Registry.alike_stop b.registry b.machine with ⟨-, hr⟩ | ha
    · rw [hr]
      exact .records rfl (Untouched.refl _)
    · exact .stop ha
  | emit event => exact .records rfl (emit_untouched b event)
  | route => exact .records rfl (Untouched.refl _)
  | write g sink copies s record =>
    exact .records rfl (Registry.untouched_writeThrough b.registry g sink copies s record b.machine)
  | work g => exact .records rfl (Registry.untouched_work b.registry g b.machine)
  | elapse m => exact .records rfl (Untouched.refl _)

end Logbook

end ModuleHost
