import Mathlib
import ModuleHost.Proofs.Logging.Ancestry
import ModuleHost.Proofs.Registry.Pending

/-!
# Claims do not reach each other

A claim changes the loggers of its categories, and through them what happens to the targets below. All other
targets stay as they are, and so do the modules that log to them.

* `Claim.Covers`: the targets that a claim reaches. `LoggerTree.SameFor`: two trees that do the same to a target.
* `Registry.sameFor_claim`, `Registry.sameFor_release`: a claim and its release, seen from elsewhere.
* `Registry.Apart`: two registries that differ in what some owners have.
* `Logbook.apart_others`, `Logbook.apart_own`: one turn, taken on one of them or on both.
* `Course.claims_isolated`: **a target is reached by the claims above it alone, and modules that have nothing in
  common see nothing of each other, in any order of claims and releases.**
-/

namespace ModuleHost

/-- **A claim covers a target** if one of its categories stands above it. -/
def Claim.Covers (c : Claim) (target : String) : Prop :=
  ∃ x ∈ c.categories.names, Above x target

instance (c : Claim) (target : String) : Decidable (c.Covers target) :=
  inferInstanceAs (Decidable (∃ x ∈ c.categories.names, Above x target))

/-- **Two trees that do the same to a target**: the level, the number of copies, and whether a record is
written. -/
structure LoggerTree.SameFor (target : String) (t t' : LoggerTree) : Prop where
  effectiveLevel : t'.effectiveLevel target = t.effectiveLevel target
  routeCount : t'.routeCount target = t.routeCount target
  enabled : ∀ s, t'.enabled target s = t.enabled target s

/-- Whose turn it is, if a turn is of an owner. -/
def Turn.owner? : Turn → Option String
  | .claim c => some c.owner
  | .release owner => some owner
  | .hear (.moduleStopped owner) => some owner
  | _ => none

/-- Whether a turn is of one of some owners. -/
def Turn.isOf (others : String → Bool) (t : Turn) : Bool :=
  t.owner?.any others

/-- The turns of everybody else. -/
def Turn.without (others : String → Bool) (ts : List Turn) : List Turn :=
  ts.filter (fun t => !t.isOf others)

namespace LoggerTree

variable {t t' : LoggerTree} {target : String}

theorem SameFor.refl (target : String) (t : LoggerTree) : SameFor target t t :=
  ⟨rfl, rfl, fun _ => rfl⟩

/-- **Only what stands above a target counts for it.** -/
theorem sameFor_of_above (hroot : t'.rootLevel = t.rootLevel) (hattached : t'.attached = t.attached)
    (h : ∀ x, Above x target → t'.logger? x = t.logger? x) : SameFor target t t' := by
  have hpath : t'.onPath target = t.onPath target :=
    List.filterMap_congr fun x hx => h x (above_of_mem_lineage hx)
  have hlevel : t'.effectiveLevel target = t.effectiveLevel target := by
    unfold effectiveLevel
    rw [hpath, hroot]
  refine ⟨hlevel, ?_, fun s => ?_⟩
  · unfold routeCount
    rw [hpath]
  · unfold enabled
    rw [hattached, hlevel]

end LoggerTree

namespace Registry

variable {r r' r₁ r₁' : Registry} {c : Claim} {owner target x : String} {others : String → Bool}
  {Foreign : String → Prop}

/-- A claim taken out of the live tree leaves the root and the outputs alone. -/
theorem sameRoot_detach (r : Registry) (c : Claim) :
    (detach r.config r.tree c).rootLevel = r.tree.rootLevel ∧
      (detach r.config r.tree c).attached = r.tree.attached :=
  rootLevel_detach r.tree c

/-! ### One claim -/

/-- **A granted claim** is not seen by a target that it does not cover. -/
theorem sameFor_claim (h : r.claim c = .ok r') (hfar : ¬(withoutRoot c).Covers target) :
    LoggerTree.SameFor target r.tree r'.tree := by
  obtain ⟨-, rfl⟩ := claim_ok h
  obtain ⟨hroot, hattached⟩ := rootLevel_attach r.tree (withoutRoot c)
  refine LoggerTree.sameFor_of_above hroot hattached fun x hx => ?_
  rw [logger?_attach, if_neg fun hmem => hfar ⟨x, hmem, hx⟩]

/-- **A release** is not seen by a target that the claim did not cover. -/
theorem sameFor_release (h : r.release owner = .ok r')
    (hfar : ∀ c, r.claimOf? owner = some c → ¬c.Covers target) : LoggerTree.SameFor target r.tree r'.tree := by
  obtain ⟨-, ⟨-, rfl⟩ | ⟨c, hc, rfl⟩⟩ := release_ok h
  · exact LoggerTree.SameFor.refl target r'.tree
  · obtain ⟨hroot, hattached⟩ := sameRoot_detach r c
    refine LoggerTree.sameFor_of_above hroot hattached fun x hx => ?_
    rw [logger?_detach, if_neg fun hmem => hfar c hc ⟨x, hmem, hx⟩]

/-! ### Two registries -/

/-- **Two registries that differ in what the others have**: their claims, and whatever the index and the tree say
of foreign categories. The others have no categories that are not foreign. -/
structure Apart (others : String → Bool) (Foreign : String → Prop) (r r' : Registry) : Prop where
  state : r'.state = r.state
  config : r'.config = r.config
  rootLevel : r'.tree.rootLevel = r.tree.rootLevel
  attached : r'.tree.attached = r.tree.attached
  owners : r'.owners.filter (fun c => !others c.owner) = r.owners.filter (fun c => !others c.owner)
  byCategory : ∀ x, ¬Foreign x → r'.byCategory.get? x = r.byCategory.get? x
  loggers : ∀ x, ¬Foreign x → r'.tree.logger? x = r.tree.logger? x
  foreign : ∀ c ∈ r.owners, others c.owner = true → ∀ x ∈ c.categories.names, Foreign x

theorem Apart.congr (h : Apart others Foreign r r') (hk : Alike r r₁) (hk' : Alike r' r₁') :
    Apart others Foreign r₁ r₁' where
  state := by rw [hk'.state, hk.state, h.state]
  config := by rw [hk'.config, hk.config, h.config]
  rootLevel := by rw [hk'.tree, hk.tree, h.rootLevel]
  attached := by rw [hk'.tree, hk.tree, h.attached]
  owners := by rw [hk'.owners, hk.owners, h.owners]
  byCategory := by
    rw [hk'.byCategory, hk.byCategory]
    exact h.byCategory
  loggers := by
    rw [hk'.tree, hk.tree]
    exact h.loggers
  foreign := by
    rw [hk.owners]
    exact h.foreign

/-- What stands above a target is not foreign to it, so it sees no difference. -/
theorem Apart.sameFor (h : Apart others Foreign r r') (hfar : ∀ x, Foreign x → ¬Above x target) :
    LoggerTree.SameFor target r'.tree r.tree :=
  LoggerTree.sameFor_of_above h.rootLevel.symm h.attached.symm fun x hx =>
    (h.loggers x fun hforeign => hfar x hforeign hx).symm

/-- An owner who is none of the others is looked for among the rest. -/
theorem owner_beq_and (hown : others owner = false) (c : Claim) :
    (c.owner == owner && !others c.owner) = (c.owner == owner) := by
  by_cases hc : c.owner = owner
  · simp [hc, hown]
  · simp [hc]

theorem any_filter_owner (hown : others owner = false) (cs : List Claim) :
    (cs.filter (fun c => !others c.owner)).any (fun c => c.owner == owner) =
      cs.any (fun c => c.owner == owner) := by
  rw [List.any_filter]
  refine congrArg cs.any (funext fun c => ?_)
  rw [Bool.and_comm]
  exact owner_beq_and hown c

theorem find?_filter_owner (hown : others owner = false) (cs : List Claim) :
    (cs.filter (fun c => !others c.owner)).find? (fun c => c.owner == owner) =
      cs.find? (fun c => c.owner == owner) := by
  rw [List.find?_filter]
  refine congrArg (fun p => cs.find? p) (funext fun c => ?_)
  by_cases hc : c.owner = owner
  · simp [hc, hown]
  · simp [hc]

theorem eraseP_filter_owner (hown : others owner = false) (cs : List Claim) :
    (cs.filter (fun c => !others c.owner)).eraseP (fun c => c.owner == owner) =
      (cs.eraseP (fun c => c.owner == owner)).filter (fun c => !others c.owner) := by
  rw [List.eraseP_filter]
  refine congrArg (fun p => (cs.eraseP p).filter _) (funext fun c => owner_beq_and hown c)

/-- Releasing one of the others leaves the rest. -/
theorem filter_eraseP_others (hother : others owner = true) (cs : List Claim) :
    (cs.eraseP (fun c => c.owner == owner)).filter (fun c => !others c.owner) =
      cs.filter (fun c => !others c.owner) := by
  induction cs with
  | nil => rfl
  | cons c cs ih =>
    by_cases hc : c.owner = owner
    · rw [List.eraseP_cons_of_pos (by simpa using hc), List.filter_cons_of_neg (by simp [hc, hother])]
    · rw [List.eraseP_cons_of_neg (by simpa using hc), List.filter_cons, List.filter_cons, ih]

/-- Names that get one owner in the index. -/
theorem get?_foldl_insert (ns : List String) (t : Table String) (o x : String) :
    (ns.foldl (fun t n => t.insert n o) t).get? x = if x ∈ ns then some o else t.get? x :=
  look_foldl (v := fun _ => some o) (fun t n x => Table.get?_insert t n x o) x ns t

/-- Names that lose their owner in the index. -/
theorem get?_foldl_erase (ns : List String) (t : Table String) (x : String) :
    (ns.foldl (fun t n => t.erase n) t).get? x = if x ∈ ns then none else t.get? x :=
  look_foldl (v := fun _ => none) (fun t n x => Table.get?_erase t n x) x ns t

/-! ### A turn of the others -/

/-- **A claim of the others** changes nothing but foreign categories. -/
theorem Apart.claim_others (h : Apart others Foreign r r') (hother : others c.owner = true)
    (hforeign : ∀ x ∈ (withoutRoot c).categories.names, Foreign x) (hr : r.claim c = .ok r₁) :
    Apart others Foreign r₁ r' := by
  obtain ⟨-, rfl⟩ := claim_ok hr
  obtain ⟨hroot, hattached⟩ := rootLevel_attach r.tree (withoutRoot c)
  have hnot : ∀ x, ¬Foreign x → x ∉ (withoutRoot c).categories.names := fun x hx hmem => hx (hforeign x hmem)
  refine ⟨h.state, h.config, h.rootLevel.trans hroot.symm, h.attached.trans hattached.symm, ?_, fun x hx => ?_,
    fun x hx => ?_, fun d hd hdo x hx => ?_⟩
  · have hgone : [withoutRoot c].filter (fun d => !others d.owner) = [] := by
      simp [withoutRoot, hother]
    rw [List.filter_append, hgone, List.append_nil, h.owners]
  · rw [get?_foldl_insert, if_neg (hnot x hx), h.byCategory x hx]
  · rw [logger?_attach, if_neg (hnot x hx), h.loggers x hx]
  · rcases List.mem_append.1 hd with hd | hd
    · exact h.foreign d hd hdo x hx
    · rw [List.mem_singleton.1 hd] at hx
      exact hforeign x hx

/-- **A release of the others** changes nothing but foreign categories. -/
theorem Apart.release_others (h : Apart others Foreign r r') (hother : others owner = true)
    (hr : r.release owner = .ok r₁) : Apart others Foreign r₁ r' := by
  obtain ⟨-, ⟨-, rfl⟩ | ⟨c, hc, rfl⟩⟩ := release_ok hr
  · exact h
  obtain ⟨hcm, rfl⟩ := mem_of_claimOf? hc
  obtain ⟨hroot, hattached⟩ := sameRoot_detach r c
  have hnot : ∀ x, ¬Foreign x → x ∉ c.categories.names := fun x hx hmem => hx (h.foreign c hcm hother x hmem)
  refine ⟨h.state, h.config, h.rootLevel.trans hroot.symm, h.attached.trans hattached.symm, ?_, fun x hx => ?_,
    fun x hx => ?_, fun d hd hdo x hx => ?_⟩
  · rw [filter_eraseP_others hother, h.owners]
  · rw [get?_foldl_erase, if_neg (hnot x hx), h.byCategory x hx]
  · rw [logger?_detach, if_neg (hnot x hx), h.loggers x hx]
  · exact h.foreign d (List.mem_of_mem_eraseP hd) hdo x hx

/-! ### A turn of the rest -/

/-- A claim for what is not foreign is judged alike. -/
theorem Apart.refusal?_eq (h : Apart others Foreign r r') (hown : others c.owner = false)
    (hfree : ∀ x ∈ (withoutRoot c).categories.names, ¬Foreign x) : r'.refusal? c = r.refusal? c := by
  have hknown : r'.owners.any (fun d => d.owner == c.owner) = r.owners.any (fun d => d.owner == c.owner) := by
    rw [← any_filter_owner hown, h.owners, any_filter_owner hown]
  have hcontested : r'.contested? (c.categories.erase rootCategory).names =
      r.contested? (c.categories.erase rootCategory).names := by
    unfold contested?
    rw [← List.head?_filterMap, ← List.head?_filterMap]
    refine congrArg List.head? (List.filterMap_congr fun x hx => ?_)
    rw [h.byCategory x (hfree x hx)]
  unfold refusal?
  rw [h.state, hknown, hcontested]

/-- **A claim of the rest** is answered alike, and does the same. -/
theorem Apart.claim_own (h : Apart others Foreign r r') (hown : others c.owner = false)
    (hfree : ∀ x ∈ (withoutRoot c).categories.names, ¬Foreign x) :
    (∀ e, r.claim c = .error e → r'.claim c = .error e) ∧
      ∀ r₁, r.claim c = .ok r₁ → ∃ r₁', r'.claim c = .ok r₁' ∧ Apart others Foreign r₁ r₁' := by
  have hrefusal := h.refusal?_eq hown hfree
  unfold Registry.claim
  rw [hrefusal]
  cases r.refusal? c with
  | some e => exact ⟨fun _ he => he, fun _ hr => nomatch hr⟩
  | none =>
    refine ⟨nofun, ?_⟩
    rintro _ ⟨⟩
    obtain ⟨hroot, hattached⟩ := rootLevel_attach r.tree (withoutRoot c)
    obtain ⟨hroot', hattached'⟩ := rootLevel_attach r'.tree (withoutRoot c)
    refine ⟨_, rfl, h.state, h.config, hroot'.trans (h.rootLevel.trans hroot.symm),
      hattached'.trans (h.attached.trans hattached.symm), ?_, fun x hx => ?_,
        fun x hx => ?_, fun d hd hdo x hx => ?_⟩
    · rw [List.filter_append, List.filter_append, h.owners]
    · rw [get?_foldl_insert, get?_foldl_insert, h.byCategory x hx]
    · rw [logger?_attach, logger?_attach, h.loggers x hx]
    · rcases List.mem_append.1 hd with hd | hd
      · exact h.foreign d hd hdo x hx
      · rw [List.mem_singleton.1 hd] at hdo
        exact absurd (hown.symm.trans hdo) Bool.false_ne_true

/-- **A release of the rest** is answered alike, and does the same. -/
theorem Apart.release_own (h : Apart others Foreign r r') (hown : others owner = false) :
    (∀ e, r.release owner = .error e → r'.release owner = .error e) ∧
      ∀ r₁, r.release owner = .ok r₁ → ∃ r₁', r'.release owner = .ok r₁' ∧ Apart others Foreign r₁ r₁' := by
  have hclaim : r'.claimOf? owner = r.claimOf? owner := by
    unfold claimOf?
    rw [← find?_filter_owner hown, h.owners, find?_filter_owner hown]
  unfold Registry.release ensureActive
  rw [hclaim, h.state]
  split
  · exact ⟨fun _ he => he, fun _ hr => nomatch hr⟩
  · cases hc : r.claimOf? owner with
    | none => exact ⟨nofun, fun _ hr => ⟨r', rfl, Except.ok.inj hr ▸ h⟩⟩
    | some c =>
      refine ⟨nofun, ?_⟩
      rintro _ ⟨⟩
      obtain ⟨hroot, hattached⟩ := sameRoot_detach r c
      obtain ⟨hroot', hattached'⟩ := sameRoot_detach r' c
      refine ⟨_, rfl, rfl, h.config, hroot'.trans (h.rootLevel.trans hroot.symm),
        hattached'.trans (h.attached.trans hattached.symm), ?_, fun x hx => ?_, fun x hx => ?_,
        fun d hd => h.foreign d (List.mem_of_mem_eraseP hd)⟩
      · rw [← eraseP_filter_owner hown, ← eraseP_filter_owner hown, h.owners]
      · rw [get?_foldl_erase, get?_foldl_erase, h.byCategory x hx]
      · show (detach r'.config r'.tree c).logger? x = (detach r.config r.tree c).logger? x
        rw [logger?_detach, logger?_detach, h.loggers x hx, h.config]

/-- **A call that is answered alike**, and reported: it leaves the registry alone, or there is a new one. -/
theorem Apart.answered {x x' : Except RegistryError Registry} (h : Apart others Foreign r r')
    (hx : (∀ e, x = .error e → x' = .error e) ∧ ∀ q, x = .ok q → ∃ q', x' = .ok q' ∧ Apart others Foreign q q')
    (hr : (∀ e, x = .error e → Alike r r₁) ∧ ∀ q, x = .ok q → Alike q r₁)
    (hr' : (∀ e, x' = .error e → Alike r' r₁') ∧ ∀ q, x' = .ok q → Alike q r₁') : Apart others Foreign r₁ r₁' := by
  cases x with
  | error e => exact h.congr (hr.1 e rfl) (hr'.1 e (hx.1 e rfl))
  | ok q =>
    obtain ⟨q', hq', hapart⟩ := hx.2 q rfl
    exact hapart.congr (hr.2 q rfl) (hr'.2 q' hq')

end Registry

namespace Logbook

open Registry (Alike Apart withoutRoot)

variable {b b' : Logbook} {t : Turn} {c : Claim} {owner : String} {others : String → Bool}
  {Foreign : String → Prop}

/-- A refused claim leaves the registry alone, and a granted one puts the new registry in its place. -/
theorem alike_claim (b : Logbook) (c : Claim) :
    (∀ e, b.registry.claim c = .error e → Alike b.registry (b.claim c).2.registry) ∧
      ∀ r, b.registry.claim c = .ok r → Alike r (b.claim c).2.registry :=
  ⟨fun e he => ((b.claim_spec c).1 e he).2.toAlike, fun r hr => ((b.claim_spec c).2 r hr).2.toAlike⟩

theorem alike_release (b : Logbook) (owner : String) :
    (∀ e, b.registry.release owner = .error e → Alike b.registry (b.release owner).2.registry) ∧
      ∀ r, b.registry.release owner = .ok r → Alike r (b.release owner).2.registry :=
  ⟨fun e he => ((b.release_spec owner).1 e he).2.toAlike, fun r hr => ((b.release_spec owner).2 r hr).2.toAlike⟩

/-- A claim of the others, taken on one of two machines. -/
theorem apart_claim_others (h : Apart others Foreign b.registry b'.registry) (hother : others c.owner = true)
    (hforeign : ∀ x ∈ (withoutRoot c).categories.names, Foreign x) :
    Apart others Foreign (b.claim c).2.registry b'.registry := by
  obtain ⟨hrefused, hgranted⟩ := alike_claim b c
  cases hr : b.registry.claim c with
  | error e => exact h.congr (hrefused e hr) (Alike.refl _)
  | ok r => exact (h.claim_others hother hforeign hr).congr (hgranted r hr) (Alike.refl _)

theorem apart_release_others (h : Apart others Foreign b.registry b'.registry) (hother : others owner = true) :
    Apart others Foreign (b.release owner).2.registry b'.registry := by
  obtain ⟨hrefused, hgranted⟩ := alike_release b owner
  cases hr : b.registry.release owner with
  | error e => exact h.congr (hrefused e hr) (Alike.refl _)
  | ok r => exact (h.release_others hother hr).congr (hgranted r hr) (Alike.refl _)

/-- **A turn of the others**, taken on one of two machines. -/
theorem apart_others (h : Apart others Foreign b.registry b'.registry) (hother : t.isOf others = true)
    (hforeign : ∀ c, t = .claim c → ∀ x ∈ (withoutRoot c).categories.names, Foreign x) :
    Apart others Foreign (b.turn t).2.registry b'.registry := by
  cases t with
  | claim c => exact apart_claim_others h (by simpa [Turn.isOf, Turn.owner?] using hother) (hforeign c rfl)
  | release owner => exact apart_release_others h (by simpa [Turn.isOf, Turn.owner?] using hother)
  | hear e =>
    cases e with
    | moduleStopped owner =>
      have howner : others owner = true := by simpa [Turn.isOf, Turn.owner?] using hother
      have hrelease := apart_release_others h howner
      exact hrelease.congr (alike_hear b owner) (Alike.refl _)
    | _ => cases hother
  | _ => cases hother

/-- **Any other plain turn**, taken on both machines. -/
theorem apart_own (h : Apart others Foreign b.registry b'.registry) (ht : t.isPlain = true)
    (hown : t.isOf others = false)
    (hfree : ∀ c, t = .claim c → ∀ x ∈ (withoutRoot c).categories.names, ¬Foreign x) :
    Apart others Foreign (b.turn t).2.registry (b'.turn t).2.registry := by
  cases t with
  | claim c =>
    have howner : others c.owner = false := by simpa [Turn.isOf, Turn.owner?] using hown
    exact h.answered (h.claim_own howner (hfree c rfl)) (alike_claim b c) (alike_claim b' c)
  | release owner =>
    have howner : others owner = false := by simpa [Turn.isOf, Turn.owner?] using hown
    exact h.answered (h.release_own howner) (alike_release b owner) (alike_release b' owner)
  | hear e =>
    cases e with
    | moduleStopped owner =>
      have howner : others owner = false := by simpa [Turn.isOf, Turn.owner?] using hown
      have hrelease := h.answered (h.release_own howner) (alike_release b owner) (alike_release b' owner)
      exact hrelease.congr (alike_hear b owner) (alike_hear b' owner)
    | _ => exact h
  | emit e => exact h.congr (emit_untouched b e).toAlike (emit_untouched b' e).toAlike
  | write g sink copies s record =>
    exact h.congr (Registry.alike_writeThrough _ g sink copies s record _)
      (Registry.alike_writeThrough _ g sink copies s record _)
  | work g => exact h.congr (Registry.alike_work _ g _) (Registry.alike_work _ g _)
  | elapse m => exact h
  | _ => cases ht

end Logbook

namespace Course

open LoggerTree (SameFor)
open Registry (Apart withoutRoot)

variable {s s' : Course} {others : String → Bool} {Foreign : String → Prop} {us : List Turn}

/-- **What the others have or ask for** on a course, from where it is now. -/
def IsForeign (s : Course) (others : String → Bool) (us : List Turn) (x : String) : Prop :=
  (∃ c ∈ s.registry.owners, others c.owner = true ∧ x ∈ c.categories.names) ∨
    ∃ c, Turn.claim c ∈ us ∧ others c.owner = true ∧ x ∈ (withoutRoot c).categories.names

/-- **What the rest ask for.** -/
def IsWanted (others : String → Bool) (us : List Turn) (x : String) : Prop :=
  ∃ c, Turn.claim c ∈ us ∧ others c.owner = false ∧ x ∈ (withoutRoot c).categories.names

/-- **With the turns of the others and without them**, the registry is the same to the rest. -/
theorem apart_run (h : Apart others Foreign s.registry s'.registry) (hus : ∀ u ∈ us, u.isPlain = true)
    (hforeign : ∀ c, Turn.claim c ∈ us → others c.owner = true → ∀ x ∈ (withoutRoot c).categories.names, Foreign x)
    (hfree : ∀ c, Turn.claim c ∈ us → others c.owner = false →
      ∀ x ∈ (withoutRoot c).categories.names, ¬Foreign x) :
    Apart others Foreign (s.run us).registry (s'.run (Turn.without others us)).registry := by
  induction us generalizing s s' with
  | nil => exact h
  | cons u us ih =>
    have hrest := fun {a b : Course} (hab : Apart others Foreign a.registry b.registry) =>
      ih hab (fun v hv => hus v (List.mem_cons_of_mem u hv))
        (fun c hc => hforeign c (List.mem_cons_of_mem u hc)) (fun c hc => hfree c (List.mem_cons_of_mem u hc))
    cases hof : u.isOf others with
    | true =>
      have hskip : Turn.without others (u :: us) = Turn.without others us :=
        List.filter_cons_of_neg (by simp [hof])
      rw [hskip]
      refine hrest ?_
      rw [registry, take_book]
      refine Logbook.apart_others h hof ?_
      rintro c rfl
      exact hforeign c List.mem_cons_self (by simpa [Turn.isOf, Turn.owner?] using hof)
    | false =>
      have hkeep : Turn.without others (u :: us) = u :: Turn.without others us :=
        List.filter_cons_of_pos (by simp [hof])
      rw [hkeep]
      refine hrest ?_
      rw [registry, registry, take_book, take_book]
      refine Logbook.apart_own h (hus u List.mem_cons_self) hof ?_
      rintro c rfl
      exact hfree c List.mem_cons_self (by simpa [Turn.isOf, Turn.owner?] using hof)

/-- A registry next to itself. -/
theorem apart_self (h : ∀ c ∈ s.registry.owners, others c.owner = true → ∀ x ∈ c.categories.names, Foreign x) :
    Apart others Foreign s.registry s.registry :=
  ⟨rfl, rfl, rfl, rfl, rfl, fun _ _ => rfl, fun _ _ => rfl, h⟩

theorem sameFor_take_claim (s : Course) {c : Claim} {target : String} (hfar : ¬(withoutRoot c).Covers target) :
    SameFor target s.registry.tree (s.take (.claim c)).registry.tree := by
  rw [registry, registry, take_book]
  show SameFor target s.book.registry.tree (s.book.claim c).2.registry.tree
  obtain ⟨hrefused, hgranted⟩ := s.book.alike_claim c
  cases hr : s.book.registry.claim c with
  | error e =>
    rw [(hrefused e hr).tree]
    exact SameFor.refl target _
  | ok r =>
    rw [(hgranted r hr).tree]
    exact Registry.sameFor_claim hr hfar

theorem sameFor_take_release (s : Course) {owner target : String}
    (hfar : ∀ c, s.registry.claimOf? owner = some c → ¬c.Covers target) :
    SameFor target s.registry.tree (s.take (.release owner)).registry.tree := by
  rw [registry, registry, take_book]
  show SameFor target s.book.registry.tree (s.book.release owner).2.registry.tree
  obtain ⟨hrefused, hgranted⟩ := s.book.alike_release owner
  cases hr : s.book.registry.release owner with
  | error e =>
    rw [(hrefused e hr).tree]
    exact SameFor.refl target _
  | ok r =>
    rw [(hgranted r hr).tree]
    exact Registry.sameFor_release hr hfar

/-- **Claims are isolated**, whatever state the registry is in. A claim and its release are seen by the targets
that it covers alone. And take any course of claims, releases, stopped modules and records from there, and leave
out all turns of some owners: if nothing that these have or ask for stands above the target or is asked for by the
rest, the target cannot tell, and the rest have what they had. -/
theorem claims_isolated (s : Course) (target : String) :
    (∀ c, ¬(withoutRoot c).Covers target → SameFor target s.registry.tree (s.take (.claim c)).registry.tree) ∧
    (∀ owner, (∀ c, s.registry.claimOf? owner = some c → ¬c.Covers target) →
      SameFor target s.registry.tree (s.take (.release owner)).registry.tree) ∧
    ∀ (others : String → Bool) (us : List Turn), (∀ u ∈ us, u.isPlain = true) →
      (∀ x, s.IsForeign others us x → ¬Above x target ∧ ¬IsWanted others us x) →
      SameFor target (s.run (Turn.without others us)).registry.tree (s.run us).registry.tree ∧
        (s.run us).registry.owners.filter (fun c => !others c.owner) =
          (s.run (Turn.without others us)).registry.owners.filter (fun c => !others c.owner) := by
  refine ⟨fun c => s.sameFor_take_claim, fun owner => s.sameFor_take_release, fun others us hus hapart => ?_⟩
  have hstart : Apart others (s.IsForeign others us) s.registry s.registry :=
    apart_self fun c hc ho x hx => Or.inl ⟨c, hc, ho, hx⟩
  have hend := apart_run hstart hus (fun c hc ho x hx => Or.inr ⟨c, hc, ho, hx⟩)
    (fun c hc ho x hx hforeign => (hapart x hforeign).2 ⟨c, hc, ho, hx⟩)
  exact ⟨hend.sameFor fun x hx => (hapart x hx).1, hend.owners.symm⟩

/-- Two modules: one moves its loggers about while the other comes and goes. -/
theorem claims_isolated_two_modules :
    let config : Settings.Logging := { file := { path := "host.log" } }
    let m : Machine := { now := ⟨1792231200, 0, 0⟩, fileTime := ⟨1792231200, 0, 0⟩ }
    let db : Claim := ⟨"db", .ofList ["app.db"], .upTo .trace, false⟩
    let pool : Claim := ⟨"db", .ofList ["app.db::pool", rootCategory], .upTo .debug, true⟩
    let web : Claim := ⟨"web", .ofList ["app.web"], .upTo .error, false⟩
    let s := (start config m).run [.init, .claim db]
    let us := [Turn.claim web, .release "db", .claim pool, .hear (.moduleStopped "web")]
    let others := fun o => o == "db"
    s.registry.state = .active ∧
      SameFor "app.web.http" s.registry.tree (s.take (.claim pool)).registry.tree ∧
      SameFor "app.web.http" s.registry.tree (s.take (.release "db")).registry.tree ∧
      Turn.without others us = [.claim web, .hear (.moduleStopped "web")] ∧
      SameFor "app.web.http" (s.run (Turn.without others us)).registry.tree (s.run us).registry.tree ∧
        (s.run us).registry.owners.filter (fun c => !others c.owner) =
          (s.run (Turn.without others us)).registry.owners.filter (fun c => !others c.owner) := by
  intro config m db pool web s us others
  have howners : s.registry.owners = [db] := by decide +kernel
  have hpool : (withoutRoot pool).categories.names = ["app.db::pool"] := by decide +kernel
  have hweb : (withoutRoot web).categories.names = ["app.web"] := by decide +kernel
  have hdb : db.categories.names = ["app.db"] := by decide +kernel
  have hasked : ∀ c, Turn.claim c ∈ us → c = web ∨ c = pool := by
    intro c hc
    simpa [us] using hc
  obtain ⟨hclaim, hrelease, hrun⟩ := claims_isolated s "app.web.http"
  have hrest : Turn.without others us = [.claim web, .hear (.moduleStopped "web")] := by
    simp [Turn.without, us, Turn.isOf, Turn.owner?, others, web, pool]
  refine ⟨by decide +kernel, hclaim pool (by decide +kernel), hrelease "db" fun c hc => ?_,
    hrest, hrun others us ?_ ?_⟩
  · obtain ⟨hmem, -⟩ := Registry.mem_of_claimOf? hc
    rw [howners, List.mem_singleton] at hmem
    rw [hmem]
    decide +kernel
  · simp [us, Turn.isPlain]
  · -- the others have or ask for two categories, and the rest ask for one
    have hwanted : ∀ x, IsWanted others us x → x = "app.web" := by
      rintro x ⟨c, hc, hown, hx⟩
      rcases hasked c hc with rfl | rfl
      · simpa [hweb] using hx
      · cases hown
    have hforeign : ∀ x, s.IsForeign others us x → x = "app.db" ∨ x = "app.db::pool" := by
      rintro x (⟨c, hc, -, hx⟩ | ⟨c, hc, ho, hx⟩)
      · rw [howners, List.mem_singleton] at hc
        rw [hc, hdb] at hx
        exact Or.inl (List.mem_singleton.1 hx)
      · rcases hasked c hc with rfl | rfl
        · cases ho
        · rw [hpool] at hx
          exact Or.inr (List.mem_singleton.1 hx)
    intro x hx
    refine ⟨?_, fun hw => ?_⟩
    · rcases hforeign x hx with rfl | rfl <;> decide +kernel
    · rw [hwanted x hw] at hx
      exact (hforeign _ hx).elim (by decide) (by decide)

end Course

end ModuleHost
