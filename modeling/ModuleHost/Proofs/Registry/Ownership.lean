import Mathlib
import ModuleHost.Proofs.Registry.Claims
import ModuleHost.Proofs.Registry.Tree

/-!
# One owner per category

Whatever happens to a registry, its three records of who owns what agree: the list of owners, the index
by category, and the live tree.

* `Registry.Owned`: the owners are told apart, share no category, and the index is theirs.
* `Course.Live`: while the registry is active, the tree has the owners' loggers, and the root level of
  the settings that it was built from.
* `Course.owned_run`: **both hold after any course**, whatever was refused on the way.
-/

namespace ModuleHost

/-- **Owners and index agree.** Owners are told apart by name, have at least one category each and none
in common, and the index has exactly their categories. The root is not among them. -/
structure Registry.Owned (r : Registry) : Prop where
  distinct : (r.owners.map (·.owner)).Nodup
  disjoint : r.owners.Pairwise (fun a b => ∀ x ∈ a.categories.names, x ∉ b.categories.names)
  nonempty : ∀ c ∈ r.owners, c.categories.names ≠ []
  rootless : ∀ c ∈ r.owners, rootCategory ∉ c.categories.names
  indexed : ∀ x o, r.byCategory.get? x = some o ↔ r.Owns o x

namespace Registry

variable {r r' : Registry} {c d : Claim} {x owner : String} {m m' : Machine}

/-- A category has one owner only. -/
theorem Owned.eq_of_mem (h : r.Owned) (hc : c ∈ r.owners) (hd : d ∈ r.owners)
    (hxc : x ∈ c.categories.names) (hxd : x ∈ d.categories.names) : c = d := by
  by_contra hne
  have hsymm : Std.Symm (fun a b : Claim => ∀ x ∈ a.categories.names, x ∉ b.categories.names) :=
    ⟨fun a b hab x hxb hxa => hab x hxa hxb⟩
  exact h.disjoint.forall hc hd hne x hxc hxd

theorem Owned.get?_eq_none_iff (h : r.Owned) :
    r.byCategory.get? x = none ↔ ∀ c ∈ r.owners, x ∉ c.categories.names := by
  constructor
  · intro hx c hc hxc
    have := (h.indexed x c.owner).2 ⟨c, hc, rfl, hxc⟩
    rw [hx] at this
    cases this
  · intro hx
    cases ho : r.byCategory.get? x with
    | none => rfl
    | some o =>
      obtain ⟨c, hc, -, hxc⟩ := (h.indexed x o).1 ho
      exact absurd hxc (hx c hc)

/-- What only the owners and the index decide. -/
theorem Owned.congr (h : r.Owned) (ho : r'.owners = r.owners) (hb : r'.byCategory = r.byCategory) :
    r'.Owned := by
  obtain ⟨h1, h2, h3, h4, h5⟩ := h
  unfold Owns at h5
  rw [← ho] at h1 h2 h3 h4 h5
  rw [← hb] at h5
  exact ⟨h1, h2, h3, h4, h5⟩

/-- With owners told apart, releasing one keeps exactly the others. -/
theorem eraseP_owner {owners : List Claim} (h : (owners.map (·.owner)).Nodup) (owner : String) :
    owners.eraseP (fun o => o.owner == owner) = owners.filter (fun o => o.owner != owner) := by
  induction owners with
  | nil => rfl
  | cons c cs ih =>
    rw [List.map_cons, List.nodup_cons] at h
    by_cases hc : c.owner = owner
    · -- nobody further back has the same id
      have hcs : cs.filter (fun o => o.owner != owner) = cs := by
        rw [List.filter_eq_self]
        intro d hd
        have hne : d.owner ≠ owner := fun hdo => h.1 (List.mem_map.2 ⟨d, hd, hdo.trans hc.symm⟩)
        simpa using hne
      rw [List.eraseP_cons_of_pos (by simpa using hc), List.filter_cons_of_neg (by simpa using hc), hcs]
    · rw [List.eraseP_cons_of_neg (by simpa using hc), List.filter_cons_of_pos (by simpa using hc),
        ih h.2]

theorem Owned.mem_eraseP (h : r.Owned) :
    d ∈ r.owners.eraseP (fun o => o.owner == owner) ↔ d ∈ r.owners ∧ d.owner ≠ owner := by
  rw [eraseP_owner h.distinct, List.mem_filter]
  simp

/-- The claim that a known owner has. -/
theorem mem_of_claimOf? (h : r.claimOf? owner = some c) : c ∈ r.owners ∧ c.owner = owner :=
  ⟨List.mem_of_find?_eq_some h, by simpa using List.find?_some h⟩

theorem Owned.eq_of_owner (h : r.Owned) (hc : c ∈ r.owners) (hd : d ∈ r.owners)
    (ho : c.owner = d.owner) : c = d :=
  List.inj_on_of_nodup_map h.distinct hc hd ho

theorem owned_new (config : Settings.Logging) : (Registry.new config).Owned := by
  refine ⟨by simp [new], by simp [new], by simp [new], by simp [new], fun x o => ?_⟩
  simp [new, Owns]

/-- **A granted claim keeps owners and index in agreement.** -/
theorem Owned.claim (h : r.Owned) (hr : r.claim c = .ok r') : r'.Owned := by
  obtain ⟨hn, rfl⟩ := claim_ok hr
  obtain ⟨-, hne, hown, hfree⟩ := refusal?_eq_none_iff.1 hn
  have hfree' : ∀ x ∈ (withoutRoot c).categories.names, ∀ d ∈ r.owners, x ∉ d.categories.names :=
    fun x hx => h.get?_eq_none_iff.1 (hfree x hx)
  refine ⟨?_, ?_, ?_, ?_, ?_⟩
  · rw [List.map_append, List.map_singleton, List.nodup_append]
    refine ⟨h.distinct, List.nodup_singleton _, ?_⟩
    intro o ho o' ho'
    obtain ⟨d, hd, rfl⟩ := List.mem_map.1 ho
    rw [List.mem_singleton.1 ho']
    exact hown d hd
  · rw [List.pairwise_append]
    refine ⟨h.disjoint, List.pairwise_singleton _ _, ?_⟩
    intro d hd e he x hxd hxe
    rw [List.mem_singleton.1 he] at hxe
    exact hfree' x hxe d hd hxd
  · intro d hd
    rcases List.mem_append.1 hd with hd | hd
    · exact h.nonempty d hd
    · rw [List.mem_singleton.1 hd]; exact hne
  · intro d hd
    rcases List.mem_append.1 hd with hd | hd
    · exact h.rootless d hd
    · rw [List.mem_singleton.1 hd]
      exact fun hx => (Categories.mem_erase.1 hx).2 rfl
  · -- the index gets the new categories, none of which had an entry
    intro x o
    have hlook := look_foldl (f := fun t n => Table.insert t n c.owner)
      (v := fun _ => some c.owner) (fun t n x => Table.get?_insert t n x c.owner) x
      (withoutRoot c).categories.names r.byCategory
    simp only [hlook]
    unfold Owns
    simp only [List.mem_append, List.mem_singleton]
    split
    · rename_i hx
      constructor
      · intro ho
        exact ⟨withoutRoot c, Or.inr rfl, Option.some.inj ho, hx⟩
      · rintro ⟨d, hd | rfl, rfl, hxd⟩
        · exact absurd hxd (hfree' x hx d hd)
        · rfl
    · rename_i hx
      rw [h.indexed]
      constructor
      · rintro ⟨d, hd, ho, hxd⟩
        exact ⟨d, Or.inl hd, ho, hxd⟩
      · rintro ⟨d, hd | rfl, ho, hxd⟩
        · exact ⟨d, hd, ho, hxd⟩
        · exact absurd hxd hx

/-- **A release keeps owners and index in agreement.** -/
theorem Owned.release (h : r.Owned) (hr : r.release owner = .ok r') : r'.Owned := by
  obtain ⟨-, ⟨-, rfl⟩ | ⟨c, hc, rfl⟩⟩ := release_ok hr
  · exact h
  obtain ⟨hcm, rfl⟩ := mem_of_claimOf? hc
  have hsub := List.eraseP_sublist (p := fun o : Claim => o.owner == c.owner) (l := r.owners)
  refine ⟨h.distinct.sublist (hsub.map _), h.disjoint.sublist hsub,
    fun d hd => h.nonempty d (hsub.subset hd), fun d hd => h.rootless d (hsub.subset hd), ?_⟩
  intro x o
  have hlook := look_foldl (f := fun t n => Table.erase t n)
    (v := fun _ => none) (fun t n x => Table.get?_erase t n x) x c.categories.names r.byCategory
  simp only [hlook]
  unfold Owns
  simp only [h.mem_eraseP]
  split
  · -- who else would own a released category would share it
    rename_i hx
    simp only [reduceCtorEq, false_iff]
    rintro ⟨d, ⟨hd, hne⟩, -, hxd⟩
    exact hne (congrArg Claim.owner (h.eq_of_mem hd hcm hxd hx))
  · rename_i hx
    rw [h.indexed]
    constructor
    · rintro ⟨d, hd, ho, hxd⟩
      refine ⟨d, ⟨hd, fun hdc => hx ?_⟩, ho, hxd⟩
      rw [← h.eq_of_owner hd hcm hdc]
      exact hxd
    · rintro ⟨d, ⟨hd, -⟩, ho, hxd⟩
      exact ⟨d, hd, ho, hxd⟩

/-- **The tree has the loggers of all owners.** -/
def Shows (r : Registry) : Prop :=
  ∀ c ∈ r.owners, ∀ x ∈ c.categories.names, r.tree.logger? x = some c.node

theorem Shows.congr (h : r.Shows) (hk : Alike r r') : r'.Shows := by
  unfold Shows
  rw [hk.owners, hk.tree]
  exact h

theorem Shows.claim (h : r.Shows) (ho : r.Owned) (hr : r.claim c = .ok r') : r'.Shows := by
  obtain ⟨hn, rfl⟩ := claim_ok hr
  obtain ⟨-, -, -, hfree⟩ := refusal?_eq_none_iff.1 hn
  intro d hd x hx
  simp only [logger?_attach]
  rcases List.mem_append.1 hd with hd | hd
  · have hnot : x ∉ (withoutRoot c).categories.names :=
      fun hxc => ho.get?_eq_none_iff.1 (hfree x hxc) d hd hx
    rw [if_neg hnot]
    exact h d hd x hx
  · rw [List.mem_singleton.1 hd] at hx ⊢
    rw [if_pos hx]

theorem Shows.release (h : r.Shows) (ho : r.Owned) (hr : r.release owner = .ok r') : r'.Shows := by
  obtain ⟨-, ⟨-, rfl⟩ | ⟨c, hc, rfl⟩⟩ := release_ok hr
  · exact h
  obtain ⟨hcm, rfl⟩ := mem_of_claimOf? hc
  intro d hd x hx
  obtain ⟨hdm, hne⟩ := ho.mem_eraseP.1 hd
  have hnot : x ∉ c.categories.names :=
    fun hxc => hne (congrArg Claim.owner (ho.eq_of_mem hdm hcm hx hxc))
  simp only [logger?_detach]
  rw [if_neg hnot]
  exact h d hdm x hx

theorem Rebuilt.shows (h : Rebuilt r r') (ho : r.Owned) : r'.Shows := by
  intro d hd x hx
  rw [h.owners] at hd
  rw [h.tree]
  exact logger?_builtTree_of_mem ho.disjoint hd hx

end Registry

/-- **The live tree is up to date**: while the registry is active, the tree has the owners' loggers, and
the root level of the settings that the last start or reset took. -/
structure Course.Live (s : Course) : Prop where
  shows : s.registry.state = .active → s.registry.Shows
  rootLevel : s.registry.state = .active → ∃ config, s.installed = some config ∧
    s.registry.tree.rootLevel = Level.parseOrDebug config.rootLevel

namespace Course

variable {s : Course} {t : Turn}

theorem Live.congr {r : Registry} {i : Option Settings.Logging} {b : Logbook}
    (hs : r.state = .active → r.Shows)
    (hl : r.state = .active → ∃ config, i = some config ∧
      r.tree.rootLevel = Level.parseOrDebug config.rootLevel)
    (hk : Registry.Alike r b.registry) : Live { book := b, installed := i } := by
  constructor
  · intro h
    exact (hs (hk.state.symm.trans h)).congr hk
  · intro h
    obtain ⟨config, hi, hroot⟩ := hl (hk.state.symm.trans h)
    exact ⟨config, hi, by rw [registry, hk.tree]; exact hroot⟩

/-- **One turn** keeps the records in agreement. -/
theorem owned_take (ho : s.registry.Owned) (hl : s.Live) (t : Turn) :
    (s.take t).registry.Owned ∧ (s.take t).Live := by
  cases hx : (s.book.turn t).1 with
  | error e =>
    have hu := Logbook.turn_error hx
    rw [take_of_error hx]
    exact ⟨ho.congr hu.owners hu.byCategory, Live.congr hl.shows hl.rootLevel hu.toAlike⟩
  | ok u =>
    rw [take_of_ok hx]
    cases Logbook.turn_ok hx with
    | records hb hu =>
      rw [if_neg (by simp [hb])]
      exact ⟨ho.congr hu.owners hu.byCategory, Live.congr hl.shows hl.rootLevel hu.toAlike⟩
    | @claim c r₁ _ hr hu =>
      have hstate : r₁.state = s.registry.state := by rw [(Registry.claim_ok hr).2]
      have hroot : r₁.tree.rootLevel = s.registry.tree.rootLevel := by
        rw [(Registry.claim_ok hr).2]
        exact (Registry.rootLevel_attach _ _).1
      refine ⟨(ho.claim hr).congr hu.owners hu.byCategory, Live.congr ?_ ?_ hu.toAlike⟩
      · intro ha
        exact (hl.shows (hstate.symm.trans ha)).claim ho hr
      · intro ha
        rw [hroot]
        exact hl.rootLevel (hstate.symm.trans ha)
    | @release _ owner r₁ _ ht hr hu =>
      have hb : t.builds = false := by rcases ht with rfl | rfl <;> rfl
      have hroot : r₁.tree.rootLevel = s.registry.tree.rootLevel := by
        obtain ⟨-, ⟨-, h⟩ | ⟨c, -, h⟩⟩ := Registry.release_ok hr
        · rw [h]
        · rw [h]
          exact (Registry.rootLevel_detach _ _).1
      have ha := (Registry.release_ok hr).1
      rw [if_neg (by simp [hb])]
      refine ⟨(ho.release hr).congr hu.owners hu.byCategory, Live.congr ?_ ?_ hu.toAlike⟩
      · intro _
        exact (hl.shows ha).release ho hr
      · intro _
        rw [hroot]
        exact hl.rootLevel ha
    | build hb hr ha hu =>
      rw [if_pos hb]
      refine ⟨(ho.congr hr.owners hr.byCategory).congr hu.owners hu.byCategory,
        Live.congr ?_ ?_ hu.toAlike⟩
      · intro _
        exact hr.shows ho
      · intro _
        refine ⟨_, rfl, ?_⟩
        rw [hr.tree]
        exact (Registry.rootLevel_builtTree _ _ _).1
    | config config =>
      exact ⟨ho.congr rfl rfl, hl.shows, hl.rootLevel⟩
    | stop hk =>
      -- nothing is asked of the tree of a registry that is not active
      refine ⟨ho.congr hk.owners hk.byCategory, Live.congr ?_ ?_ hk⟩ <;> exact fun h => by cases h

theorem owned_and_live_run (config : Settings.Logging) (m : Machine) (ts : List Turn) :
    ((start config m).run ts).registry.Owned ∧ ((start config m).run ts).Live := by
  refine run_induction (P := fun s => s.registry.Owned ∧ s.Live) (fun s t h => owned_take h.1 h.2 t) ts
    (start config m) ⟨Registry.owned_new config, ?_, ?_⟩ <;> exact fun h => by cases h

/-- **One owner per category, after any course.** Owners are told apart and have no category in common;
the index has exactly their categories, each once; the root belongs to nobody. While the registry is
active, the live tree has for each owned category the logger of its owner, and the root level of the
settings that the last successful start or reset took. -/
theorem owned_run (config : Settings.Logging) (m : Machine) (ts : List Turn) :
    let s := (start config m).run ts
    s.registry.Owned ∧ s.Live ∧
      s.registry.byCategory.names.Nodup ∧
      (∀ x o, (x, o) ∈ s.registry.byCategory.entries ↔ s.registry.Owns o x) ∧
      rootCategory ∉ s.registry.byCategory.names := by
  intro s
  obtain ⟨ho, hl⟩ := owned_and_live_run config m ts
  have hindex : ∀ x o, (x, o) ∈ s.registry.byCategory.entries ↔ s.registry.Owns o x := by
    intro x o
    rw [← Table.get?_eq_some_iff]
    exact ho.indexed x o
  refine ⟨ho, hl, s.registry.byCategory.nodup, hindex, ?_⟩
  intro hroot
  obtain ⟨⟨x, o⟩, hmem, hx⟩ := List.mem_map.1 hroot
  obtain rfl : x = rootCategory := hx
  obtain ⟨c, hc, -, hxc⟩ := (hindex _ o).1 hmem
  exact ho.rootless c hc hxc

end Course

end ModuleHost
