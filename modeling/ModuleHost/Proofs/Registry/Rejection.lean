import Mathlib
import ModuleHost.Proofs.Registry.Ownership

/-!
# Exact and atomic rejection

Which claims are granted, which reason is given for those that are not, and what a refused call leaves
behind.

* `Registry.refusal?_eq_some_iff`: **the reason for a refusal**, each with the exact condition under
  which it is given.
* `Registry.gains_of_claim`: what the owners and the index gain by a granted claim.
* `Course.exact_and_atomic`: both after any course, and every refused call leaves the registry as it was.
-/

namespace ModuleHost

/-- A category that the claim is about: the root does not count. -/
def Claim.Wants (c : Claim) (x : String) : Prop :=
  x ∈ c.categories.names ∧ x ≠ rootCategory

namespace Registry

/-- An owner is registered. -/
def Knows (r : Registry) (owner : String) : Prop :=
  ∃ d ∈ r.owners, d.owner = owner

/-- A category has an owner. -/
def Taken (r : Registry) (x : String) : Prop :=
  ∃ o, r.Owns o x

/-- **A claim that can be granted.** -/
def Grants (r : Registry) (c : Claim) : Prop :=
  r.state = .active ∧ (∃ x, c.Wants x) ∧ ¬ r.Knows c.owner ∧ ∀ x, c.Wants x → ¬ r.Taken x

/-- **The reason for refusing a claim**: the first that applies, in the order of the cases. A conflict
names the smallest category that is taken, and who has it. -/
def RefusedFor (r : Registry) (c : Claim) : RegistryError → Prop
  | .inactive state => state = r.state ∧ r.state ≠ .active
  | .noCategories owner => owner = c.owner ∧ r.state = .active ∧ c.categories.names = []
  | .onlyRoot owner =>
    owner = c.owner ∧ r.state = .active ∧ c.categories.names ≠ [] ∧ ¬ ∃ x, c.Wants x
  | .duplicateOwner owner =>
    owner = c.owner ∧ r.state = .active ∧ (∃ x, c.Wants x) ∧ r.Knows c.owner
  | .conflict x owner =>
    r.state = .active ∧ ¬ r.Knows c.owner ∧ c.Wants x ∧ r.Owns owner x ∧
      ∀ y, c.Wants y → r.Taken y → x ≤ y
  | .appender _ => False

/-- **What a granted claim adds**: the owner, in the last place and without the root, and the owner's
categories in the index. -/
structure Gains (r : Registry) (c : Claim) (r' : Registry) : Prop where
  state : r'.state = r.state
  config : r'.config = r.config
  generation : r'.generation = r.generation
  owners : r'.owners = r.owners ++ [withoutRoot c]
  index : ∀ x o, (x, o) ∈ r'.byCategory.entries ↔
    (x, o) ∈ r.byCategory.entries ∨ c.Wants x ∧ o = c.owner

variable {r r' : Registry} {c : Claim} {e : RegistryError} {x : String}

theorem mem_withoutRoot : x ∈ (withoutRoot c).categories.names ↔ c.Wants x :=
  Categories.mem_erase

theorem wants_iff : (∃ x, c.Wants x) ↔ (withoutRoot c).categories.names ≠ [] := by
  constructor
  · rintro ⟨x, hx⟩ hnil
    have := mem_withoutRoot.2 hx
    rw [hnil] at this
    simp at this
  · intro hne
    obtain ⟨x, hx⟩ := List.exists_mem_of_ne_nil _ hne
    exact ⟨x, mem_withoutRoot.1 hx⟩

theorem Owned.not_taken_iff (h : r.Owned) : ¬ r.Taken x ↔ r.byCategory.get? x = none := by
  rw [h.get?_eq_none_iff]
  constructor
  · intro hx c hc hxc
    exact hx ⟨c.owner, c, hc, rfl, hxc⟩
  · rintro hx ⟨o, c, hc, -, hxc⟩
    exact hx c hc hxc

/-- **When a claim is granted**, said of owners and categories. -/
theorem grants_iff (h : r.Owned) : r.refusal? c = none ↔ r.Grants c := by
  rw [refusal?_eq_none_iff, ← wants_iff]
  unfold Grants Knows
  simp only [not_exists, not_and]
  refine and_congr_right fun _ => and_congr_right fun _ => and_congr_right fun _ => ?_
  constructor
  · intro hx x hw
    exact h.not_taken_iff.2 (hx x (mem_withoutRoot.2 hw))
  · intro hx x hw
    exact h.not_taken_iff.1 (hx x (mem_withoutRoot.1 hw))

/-- The contested category is the smallest of those that are taken, with its owner. -/
theorem contested?_spec (h : r.Owned) {owner : String}
    (hx : r.contested? (withoutRoot c).categories.names = some (x, owner)) :
    c.Wants x ∧ r.Owns owner x ∧ ∀ y, c.Wants y → r.Taken y → x ≤ y := by
  obtain ⟨before, a, after, hsplit, ha, hbefore⟩ := List.findSome?_eq_some_iff.1 hx
  obtain ⟨o, ho, hao⟩ := Option.map_eq_some_iff.1 ha
  obtain ⟨rfl, rfl⟩ := Prod.mk.inj hao
  refine ⟨?_, (h.indexed _ _).1 ho, ?_⟩
  · rw [← mem_withoutRoot, hsplit]
    simp
  · intro y hy ht
    have hsorted := (withoutRoot c).categories.sorted
    rw [hsplit] at hsorted
    have hmem := mem_withoutRoot.2 hy
    rw [hsplit] at hmem
    rcases List.mem_append.1 hmem with hb | hb
    · -- what comes before the contested category is free
      have hfree := Option.map_eq_none_iff.1 (hbefore y hb)
      exact absurd ht (h.not_taken_iff.2 hfree)
    · rcases List.mem_cons.1 hb with rfl | hb
      · exact String.le_refl _
      · have hcons := (List.pairwise_append.1 hsorted).2.1
        exact String.not_lt.1 (String.lt_asymm ((List.pairwise_cons.1 hcons).1 y hb))

theorem exists_wants_of_ne (hn : c.categories.names ≠ []) (hr : c.categories.names ≠ [rootCategory]) :
    ∃ x, c.Wants x :=
  wants_iff.2 fun h => ((erase_root_eq_nil_iff c.categories).1 h).elim hn hr

/-- The reason that is given applies. -/
theorem refusedFor_of_refusal? (h : r.Owned) (he : r.refusal? c = some e) : r.RefusedFor c e := by
  unfold refusal? at he
  split at he
  · rename_i hs
    cases he
    exact ⟨rfl, hs⟩
  rename_i hs
  have hs : r.state = .active := not_not.1 hs
  split at he
  · rename_i hn
    cases he
    exact ⟨rfl, hs, hn⟩
  rename_i hn
  split at he
  · rename_i hr
    cases he
    refine ⟨rfl, hs, hn, ?_⟩
    rintro ⟨x, hx, hne⟩
    rw [hr] at hx
    exact hne (List.mem_singleton.1 hx)
  rename_i hr
  have hw := exists_wants_of_ne hn hr
  split at he
  · rename_i hk
    cases he
    simp only [List.any_eq_true, beq_iff_eq] at hk
    exact ⟨rfl, hs, hw, hk⟩
  · rename_i hk
    simp only [List.any_eq_true, beq_iff_eq] at hk
    obtain ⟨⟨x, o⟩, hx, rfl⟩ := Option.map_eq_some_iff.1 he
    exact ⟨hs, hk, contested?_spec h hx⟩

/-- At most one reason applies. -/
theorem RefusedFor.unique (h : r.Owned) {e' : RegistryError} (he : r.RefusedFor c e)
    (he' : r.RefusedFor c e') : e = e' := by
  have hnil : c.categories.names = [] → ¬ ∃ x, c.Wants x := by
    rintro hn ⟨x, hx, -⟩
    rw [hn] at hx
    simp at hx
  have howner : ∀ {o o' x}, r.Owns o x → r.Owns o' x → o = o' := by
    intro o o' x ho ho'
    exact Option.some.inj (((h.indexed x o).2 ho).symm.trans ((h.indexed x o').2 ho'))
  cases e <;> cases e' <;> simp only [RefusedFor] at he he'
  -- of two conflicts each names the smaller category; other reasons exclude one another
  case conflict.conflict x o y p =>
    obtain ⟨-, -, hw, ho, hle⟩ := he
    obtain ⟨-, -, hw', ho', hle'⟩ := he'
    obtain rfl := String.le_antisymm (hle y hw' ⟨p, ho'⟩) (hle' x hw ⟨o, ho⟩)
    rw [howner ho ho']
  all_goals grind

/-- **Refusals are exact**: the reason that is given is the one that applies. -/
theorem refusal?_eq_some_iff (h : r.Owned) : r.refusal? c = some e ↔ r.RefusedFor c e := by
  constructor
  · exact refusedFor_of_refusal? h
  · intro he
    cases hn : r.refusal? c with
    | some e' => rw [(refusedFor_of_refusal? h hn).unique h he]
    | none =>
      obtain ⟨hs, hw, hk, hfree⟩ := (grants_iff h).1 hn
      obtain ⟨x, hx⟩ := hw
      cases e <;> simp only [RefusedFor] at he
      case inactive => exact absurd hs he.2
      case noCategories =>
        have := hx.1
        rw [he.2.2] at this
        simp at this
      case onlyRoot => exact absurd ⟨x, hx⟩ he.2.2.2
      case duplicateOwner => exact absurd he.2.2.2 hk
      case conflict y o => exact absurd ⟨o, he.2.2.2.1⟩ (hfree y he.2.2.1)

/-- **What a granted claim adds** to the owners and the index. -/
theorem gains_of_claim (h : r.Owned) (hr : r.claim c = .ok r') : Gains r c r' := by
  have hindex := (h.claim hr).indexed
  obtain ⟨-, rfl⟩ := claim_ok hr
  refine ⟨rfl, rfl, rfl, rfl, ?_⟩
  intro x o
  rw [← Table.get?_eq_some_iff, ← Table.get?_eq_some_iff, hindex, h.indexed]
  unfold Owns
  simp only [List.mem_append, List.mem_singleton]
  constructor
  · rintro ⟨d, hd | rfl, ho, hx⟩
    · exact Or.inl ⟨d, hd, ho, hx⟩
    · exact Or.inr ⟨mem_withoutRoot.1 hx, ho.symm⟩
  · rintro (⟨d, hd, ho, hx⟩ | ⟨hx, ho⟩)
    · exact ⟨d, Or.inl hd, ho, hx⟩
    · exact ⟨withoutRoot c, Or.inr rfl, ho.symm, mem_withoutRoot.2 hx⟩

theorem Gains.congr (h : Gains r c r') {r'' : Registry} (hk : Alike r' r'') : Gains r c r'' :=
  ⟨hk.state.trans h.state, hk.config.trans h.config, hk.generation.trans h.generation,
    hk.owners.trans h.owners, by rw [hk.byCategory]; exact h.index⟩

end Registry

namespace Course

open Registry (Untouched Gains)

/-- **Claims are refused exactly and calls fail atomically.** After any course, a claim is granted if and
only if it can be; a refused one gets the first reason that applies; a granted one adds exactly its
owner, last. And every call that is answered with an error, be it a claim, a release, a start or a reset
for which no file could be opened or no writer started, leaves the registry as it was, with no outputs
stopped. -/
theorem exact_and_atomic (config : Settings.Logging) (m : Machine) (ts : List Turn) :
    let b := ((start config m).run ts).book
    (∀ c, ((b.claim c).1 = .ok () ↔ b.registry.Grants c) ∧
      (∀ e, (b.claim c).1 = .error e ↔ b.registry.RefusedFor c e) ∧
      ((b.claim c).1 = .ok () → Gains b.registry c (b.claim c).2.registry)) ∧
    ∀ t e, (b.turn t).1 = .error e → Untouched b.registry (b.turn t).2.registry := by
  intro b
  have ho : b.registry.Owned := (owned_and_live_run config m ts).1
  refine ⟨fun c => ?_, fun t e h => Logbook.turn_error h⟩
  obtain ⟨herr, hok⟩ := b.claim_spec c
  cases hn : b.registry.refusal? c with
  | some e =>
    have hc : b.registry.claim c = .error e := by unfold Registry.claim; rw [hn]
    have hanswer := (herr e hc).1
    have hgrants : ¬ b.registry.Grants c := by
      rw [← Registry.grants_iff ho, hn]
      simp
    refine ⟨?_, ?_, ?_⟩
    · rw [hanswer]
      simp [hgrants]
    · intro e'
      rw [hanswer, ← Registry.refusal?_eq_some_iff ho, hn]
      simp
    · rw [hanswer]
      intro h
      cases h
  | none =>
    obtain ⟨r, hr⟩ : ∃ r, b.registry.claim c = .ok r := by
      unfold Registry.claim
      rw [hn]
      exact ⟨_, rfl⟩
    obtain ⟨hanswer, hu⟩ := hok r hr
    have hgrants := (Registry.grants_iff ho).1 hn
    refine ⟨?_, ?_, ?_⟩
    · rw [hanswer]
      simp [hgrants]
    · intro e'
      rw [hanswer, ← Registry.refusal?_eq_some_iff ho, hn]
      simp
    · intro _
      exact (Registry.gains_of_claim ho hr).congr hu.toAlike

end Course

end ModuleHost
