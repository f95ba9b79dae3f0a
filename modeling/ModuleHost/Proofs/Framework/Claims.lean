import Mathlib
import ModuleHost.Proofs.Framework.Acts
import ModuleHost.Proofs.Registry.Ownership

/-!
# What modules leave in the registry

A module's claim is entered under the name that the claim says, and released under the name of the module.

* `Registry.granted`: which of some claims are granted, one after another.
* `HostModule.startable`: the modules that a start gets going, up to the first that fails.
* `Host.Listening`: an active registry that hears of the modules that stop.
* `Host.owners_startModules`, `Host.owners_stopModules`: who owns categories after a start, and after modules
  stopped.
* `Host.claims_returned_iff`: **modules leave the registry as they found it exactly if each granted claim says the
  name of a module that was started, and no such module has the name of an owner from before**.
-/

namespace ModuleHost

namespace Registry

variable {r r' : Registry} {c : Claim} {cs : List Claim} {owner : String}

/-- **The claims that are granted**, one after another, as they are entered. -/
def granted : Registry → List Claim → List Claim
  | _, [] => []
  | r, c :: cs =>
    match r.claim c with
    | .error _ => r.granted cs
    | .ok r' => withoutRoot c :: r'.granted cs

/-- **The same owners with the same categories.** -/
structure SameClaims (r r' : Registry) : Prop where
  owners : r'.owners = r.owners
  index : ∀ x, r'.byCategory.get? x = r.byCategory.get? x

theorem granted_congr (h : Untouched r r') (cs : List Claim) : r'.granted cs = r.granted cs := by
  induction cs generalizing r r' with
  | nil => rfl
  | cons c cs ih =>
    obtain ⟨herr, hok⟩ := claim_congr h c
    unfold granted
    cases hr : r.claim c with
    | error e =>
      rw [herr e hr]
      exact ih h
    | ok r₁ =>
      obtain ⟨r₂, hr₂, hu⟩ := hok r₁ hr
      rw [hr₂]
      exact congrArg _ (ih hu)

/-- Owners that agree have the same categories. -/
theorem Owned.sameClaims (h : r.Owned) (h' : r'.Owned) (ho : r'.owners = r.owners) : SameClaims r r' := by
  refine ⟨ho, fun x => Option.ext fun o => ?_⟩
  rw [h.indexed, h'.indexed]
  unfold Owns
  rw [ho]

/-- A claim is answered by the state and the claims. -/
theorem SameClaims.refusal? (h : SameClaims r r') (hs : r'.state = r.state) (c : Claim) :
    r'.refusal? c = r.refusal? c := by
  unfold Registry.refusal? contested?
  simp only [hs, h.owners, h.index]

/-- Claims that are granted come from owners who are told apart, also from those that were there before. -/
theorem Owned.granted (h : r.Owned) (cs : List Claim) : ((r.owners ++ r.granted cs).map (·.owner)).Nodup := by
  induction cs generalizing r with
  | nil =>
    rw [Registry.granted, List.append_nil]
    exact h.distinct
  | cons c cs ih =>
    unfold Registry.granted
    cases hr : r.claim c with
    | error e => exact ih h
    | ok r₁ =>
      have hrest := ih (h.claim hr)
      rw [(claim_ok hr).2] at hrest ⊢
      simpa using hrest

theorem release_of_active (h : r.state = .active) (owner : String) : ∃ r', r.release owner = .ok r' := by
  unfold release ensureActive
  rw [if_pos h]
  cases hc : r.claimOf? owner with
  | none => exact ⟨_, rfl⟩
  | some c => exact ⟨_, rfl⟩

/-- **Who is left after a release**: everybody else. -/
theorem Owned.owners_release (h : r.Owned) (hr : r.release owner = .ok r') :
    r'.owners = r.owners.filter (fun c => c.owner != owner) := by
  obtain ⟨-, ⟨hnone, rfl⟩ | ⟨c, -, rfl⟩⟩ := release_ok hr
  · refine (List.filter_eq_self.2 fun c hc => ?_).symm
    simpa using List.find?_eq_none.1 hnone c hc
  · exact eraseP_owner h.distinct owner

end Registry

/-- **A module that stopped owns nothing any more**, and everybody else owns what they did. -/
theorem Logbook.owners_hear {b : Logbook} (ha : b.registry.state = .active) (ho : b.registry.Owned) (id : String) :
    (b.hear (.moduleStopped id)).registry.Owned ∧
      (b.hear (.moduleStopped id)).registry.owners = b.registry.owners.filter (fun c => c.owner != id) := by
  obtain ⟨r, hr⟩ := Registry.release_of_active ha id
  have hheard : Registry.Untouched r (b.hear (.moduleStopped id)).registry := by
    have hspec := (b.release_spec id).2 r hr
    unfold hear
    simp only
    split
    · rename_i heq
      rw [heq] at hspec
      exact hspec.2
    · rename_i heq
      rw [heq] at hspec
      cases hspec.1
  exact ⟨(ho.release hr).congr hheard.owners hheard.byCategory, hheard.owners.trans (ho.owners_release hr)⟩

/-- **The modules that a start gets going** after those that run: those in front of the first that refuses or
whose routes do not fit. -/
def HostModule.startable : List HostModule → Running → List HostModule
  | [], _ => []
  | m :: ms, run =>
    match m.refusal, Host.mergeRoutes run m with
    | none, .ok router => m :: startable ms { started := run.started ++ [m], router }
    | _, _ => []

namespace Host

open HostModule (startable)

/-- **A registry that hears of the modules that stop**: it is active, and it listens. -/
structure Listening (h : Host) : Prop where
  active : h.book.registry.state = .active
  owned : h.book.registry.Owned
  hears : .registry ∈ h.bus.audience

variable {h h' : Host} {m : HostModule} {ds : List Deed} {e : HostEvent}

theorem Listening.moved (hl : h.Listening) (hm : Moved h h' ds) (ho : h'.book.registry.Owned) : h'.Listening :=
  ⟨hm.active hl.active, ho, by rw [hm.bus]; exact hl.hears⟩

theorem Listening.untouched (hl : h.Listening) (hm : Moved h h' ds)
    (hu : Registry.Untouched h.book.registry h'.book.registry) : h'.Listening :=
  hl.moved hm (hl.owned.congr hu.owners hu.byCategory)

/-! ### Events -/

/-- An event that is not about a module that stopped leaves the registry untouched. -/
theorem untouched_dispatch (h : Host) (hne : ∀ id, e ≠ .moduleStopped id) :
    Registry.Untouched h.book.registry (h.dispatch e).book.registry := by
  have hear (h : Host) (l : HostListener) : Registry.Untouched h.book.registry (h.hear e l).book.registry := by
    cases l with
    | diary => exact Registry.Untouched.refl _
    | registry =>
      obtain hu | ⟨owner, -, rfl, -⟩ := h.book.hear_spec e
      · exact hu
      · exact absurd rfl (hne owner)
  have hall (ls : List HostListener) :
      ∀ h : Host, Registry.Untouched h.book.registry (ls.foldl (fun h l => h.hear e l) h).book.registry := by
    induction ls with
    | nil => exact fun h => Registry.Untouched.refl _
    | cons l ls ih => exact fun h => (hear h l).trans (ih _)
  have hsaid := Logbook.emit_untouched h.book (h.bus.notice e)
  exact hsaid.trans (hall h.bus.audience
    ((h.report (h.bus.notice e)).record (.dispatched e h.book.registry.state)))

/-- Whoever listens, once or more often: the owner is gone if the registry does. -/
theorem owners_hearAll (id : String) (ls : List HostListener) :
    ∀ h : Host, h.book.registry.state = .active → h.book.registry.Owned →
      (ls.foldl (fun h l => h.hear (.moduleStopped id) l) h).book.registry.Owned ∧
        (ls.foldl (fun h l => h.hear (.moduleStopped id) l) h).book.registry.owners =
          if .registry ∈ ls then h.book.registry.owners.filter (fun c => c.owner != id)
          else h.book.registry.owners := by
  induction ls with
  | nil => exact fun h _ ho => ⟨ho, rfl⟩
  | cons l ls ih =>
    intro h ha ho
    have hactive := (moved_hear h (.moduleStopped id) l).active ha
    cases l with
    | diary =>
      obtain ⟨hkept, hleft⟩ := ih (h.hear (.moduleStopped id) .diary) hactive ho
      have hmem : .registry ∈ HostListener.diary :: ls ↔ .registry ∈ ls := by simp
      simp only [hmem]
      exact ⟨hkept, hleft⟩
    | registry =>
      obtain ⟨ho', howners⟩ := Logbook.owners_hear ha ho id
      obtain ⟨hkept, hleft⟩ := ih (h.hear (.moduleStopped id) .registry) hactive ho'
      refine ⟨hkept, hleft.trans ?_⟩
      -- to hear it once more changes nothing
      have hone : (h.hear (.moduleStopped id) .registry).book.registry.owners =
          h.book.registry.owners.filter (fun c => c.owner != id) := howners
      rw [hone]
      simp

theorem owners_dispatch (hl : h.Listening) (id : String) :
    (h.dispatch (.moduleStopped id)).Listening ∧
      (h.dispatch (.moduleStopped id)).book.registry.owners =
        h.book.registry.owners.filter (fun c => c.owner != id) := by
  have hsaid := Logbook.emit_untouched h.book (h.bus.notice (.moduleStopped id))
  obtain ⟨ho, howners⟩ := owners_hearAll id h.bus.audience
    ((h.report (h.bus.notice (.moduleStopped id))).record (.dispatched (.moduleStopped id) h.book.registry.state))
    (hsaid.state.trans hl.active) (hl.owned.congr hsaid.owners hsaid.byCategory)
  refine ⟨hl.moved (moved_dispatch h _) ho, howners.trans ?_⟩
  rw [if_pos hl.hears]
  exact congrArg _ hsaid.owners

/-! ### Starting and stopping -/

theorem untouched_sayOf (h : Host) (m : HostModule) (s : Severity) (message : String)
    (more : List (String × FieldValue)) :
    Registry.Untouched h.book.registry (h.sayOf m s message more).book.registry :=
  Logbook.emit_untouched h.book _

/-- **A module that stops** takes the owner of its name along. -/
theorem owners_stopModule (hl : h.Listening) (m : HostModule) :
    (h.stopModule m).Listening ∧
      (h.stopModule m).book.registry.owners = h.book.registry.owners.filter (fun c => c.owner != m.id) := by
  have hsaid := untouched_sayOf (h.record (.deactivated m)) m .info "Module stopped" []
  have hl' : ((h.record (.deactivated m)).sayOf m .info "Module stopped").Listening :=
    hl.untouched ((moved_record h rfl).trans (moved_sayOf _ _ _ _ _)) hsaid
  obtain ⟨hstopped, howners⟩ := owners_dispatch hl' m.id
  exact ⟨hstopped, howners.trans (congrArg _ hsaid.owners)⟩

/-- **Modules that stop** take the owners of their names along. -/
theorem owners_stopModules (hl : h.Listening) (us : List HostModule) :
    (h.stopModules us).Listening ∧
      (h.stopModules us).book.registry.owners =
        h.book.registry.owners.filter (fun c => us.all (fun m => m.id != c.owner)) := by
  unfold stopModules
  induction us using List.reverseRecOn generalizing h with
  | nil => simpa using hl
  | append_singleton us m ih =>
    rw [List.reverse_append, List.reverse_singleton, List.singleton_append, List.foldl_cons]
    obtain ⟨hl', howners⟩ := owners_stopModule hl m
    obtain ⟨hl'', hrest⟩ := ih hl'
    refine ⟨hl'', ?_⟩
    rw [hrest, howners, List.filter_filter]
    refine List.filter_congr fun c _ => ?_
    rw [List.all_append, List.all_cons, List.all_nil, Bool.and_true, bne_comm]

/-- **A claim, granted or not**, with whatever claims come after it. -/
theorem granted_grantClaim (hl : h.Listening) (m : HostModule) :
    (h.grantClaim m).Listening ∧ ∀ us : List HostModule,
      (h.grantClaim m).book.registry.owners ++ (h.grantClaim m).book.registry.granted (us.filterMap (·.claim)) =
        h.book.registry.owners ++ h.book.registry.granted ((m :: us).filterMap (·.claim)) := by
  cases hclaim : m.claim with
  | none =>
    have hsame : h.grantClaim m = h := by
      unfold grantClaim
      rw [hclaim]
    refine ⟨by rwa [hsame], fun us => ?_⟩
    rw [hsame, List.filterMap_cons_none hclaim]
  | some c =>
    obtain ⟨hrefused, hgranted⟩ := h.book.claim_spec c
    cases hr : h.book.registry.claim c with
    | error e =>
      obtain ⟨hone, hu⟩ := hrefused e hr
      have hu' : Registry.Untouched h.book.registry (h.grantClaim m).book.registry := by
        unfold grantClaim
        simp only [hclaim]
        split
        · rename_i heq
          rw [heq] at hone
          cases hone
        · rename_i book heq
          rw [heq] at hu
          exact hu.trans (untouched_sayOf { h with book } m _ _ _)
      refine ⟨hl.untouched (moved_grantClaim h m) hu', fun us => ?_⟩
      rw [List.filterMap_cons_some hclaim, Registry.granted, hr, hu'.owners, Registry.granted_congr hu']
    | ok r =>
      obtain ⟨hone, hu⟩ := hgranted r hr
      have hu' : Registry.Untouched r (h.grantClaim m).book.registry := by
        unfold grantClaim
        simp only [hclaim]
        split
        · rename_i heq
          rw [heq] at hu
          exact hu
        · rename_i heq
          rw [heq] at hone
          cases hone
      have howned : (h.grantClaim m).book.registry.Owned :=
        (hl.owned.claim hr).congr hu'.owners hu'.byCategory
      have howners : r.owners = h.book.registry.owners ++ [Registry.withoutRoot c] := by
        rw [(Registry.claim_ok hr).2]
      refine ⟨hl.moved (moved_grantClaim h m) howned, fun us => ?_⟩
      rw [List.filterMap_cons_some hclaim, Registry.granted, hr, hu'.owners, Registry.granted_congr hu', howners,
        List.append_assoc]
      rfl

/-- **Starting one module** enters its claim if that is granted, and nothing if it fails. -/
theorem granted_startModule (hl : h.Listening) (m : HostModule) (run : Running) :
    (∀ run', (h.startModule m run).1 = .ok run' → (h.startModule m run).2.Listening ∧ ∀ us : List HostModule,
      (h.startModule m run).2.book.registry.owners ++
          (h.startModule m run).2.book.registry.granted (us.filterMap (·.claim)) =
        h.book.registry.owners ++ h.book.registry.granted ((m :: us).filterMap (·.claim))) ∧
    ∀ e, (h.startModule m run).1 = .error e → (h.startModule m run).2.Listening ∧
      (h.startModule m run).2.book.registry.owners = h.book.registry.owners := by
  obtain ⟨hok, herr⟩ := moved_startModule hl.active m run
  revert hok herr
  unfold startModule
  cases m.refusal with
  | some source =>
    intro _ herr
    obtain ⟨ds, -, hmoved⟩ := herr _ rfl
    have hu := untouched_sayOf
        (h.record (.refused m)) m .error "Module activation failed" [("error", .shown source)]
    exact ⟨nofun, fun _ _ => ⟨hl.untouched hmoved hu, hu.owners⟩⟩
  | none =>
    cases mergeRoutes run m with
    | error f =>
      intro _ herr
      obtain ⟨ds, -, hmoved⟩ := herr _ rfl
      have hu := untouched_sayOf (h.record (.activated m)) m .error "Module routes conflict"
        [("reason", .shown f.message)]
      exact ⟨nofun, fun _ _ => ⟨hl.untouched hmoved hu, hu.owners⟩⟩
    | ok router =>
      intro _ _
      have hl₁ : (h.record (.activated m)).Listening :=
        hl.moved (moved_record h (d := .activated m) rfl) hl.owned
      obtain ⟨hl₂, hclaims⟩ := granted_grantClaim hl₁ m
      have hu := (untouched_sayOf ((h.record (.activated m)).grantClaim m) m .info "Module started" []).trans
        (untouched_dispatch (e := .moduleStarted m.id) _ nofun)
      have hmoved := (moved_sayOf ((h.record (.activated m)).grantClaim m) m .info "Module started" []).trans
        (moved_dispatch _ (.moduleStarted m.id))
      refine ⟨fun _ _ => ⟨hl₂.untouched hmoved hu, fun us => ?_⟩, nofun⟩
      rw [hu.owners, Registry.granted_congr hu]
      exact hclaims us

/-! ### All modules -/

theorem startable_cons_of_ok {run run' : Running} {ms : List HostModule}
    (hok : (h.startModule m run).1 = .ok run') :
    startable (m :: ms) run = m :: startable ms run' := by
  unfold startModule at hok
  rw [startable]
  cases hr : m.refusal with
  | some source =>
    rw [hr] at hok
    cases hok
  | none =>
    rw [hr] at hok
    cases hm : mergeRoutes run m with
    | error f =>
      rw [hm] at hok
      cases hok
    | ok router =>
      rw [hm] at hok
      cases hok
      rfl

theorem startable_cons_of_error {run : Running} {ms : List HostModule} {e : FrameworkError}
    (herr : (h.startModule m run).1 = .error e) : startable (m :: ms) run = [] := by
  unfold startModule at herr
  rw [startable]
  cases hr : m.refusal with
  | some source => rfl
  | none =>
    rw [hr] at herr
    cases hm : mergeRoutes run m with
    | error f => rfl
    | ok router =>
      rw [hm] at herr
      cases herr

/-- **Who owns categories after a start**: who did before, and the claims that were granted. If it failed, those
of the names of the modules that ran are gone. -/
theorem owners_startModules (hl : h.Listening) (ms : List HostModule) (run : Running) :
    let us := startable ms run
    let owners := h.book.registry.owners ++ h.book.registry.granted (us.filterMap (·.claim))
    (startModules ms run h).2.Listening ∧
      (∀ run', (startModules ms run h).1 = .ok run' → run'.started = run.started ++ us ∧
        (startModules ms run h).2.book.registry.owners = owners) ∧
      ∀ e, (startModules ms run h).1 = .error e → (startModules ms run h).2.book.registry.owners =
        owners.filter (fun c => (run.started ++ us).all (fun m => m.id != c.owner)) := by
  induction ms generalizing run h with
  | nil =>
    refine ⟨hl, fun run' hrun => ?_, nofun⟩
    cases hrun
    exact ⟨(List.append_nil _).symm, (List.append_nil _).symm⟩
  | cons m ms ih =>
    obtain ⟨hok, herr⟩ := granted_startModule hl m run
    obtain ⟨hstarted, -⟩ := moved_startModule hl.active m run
    unfold startModules
    split
    · rename_i e h' heq
      rw [startable_cons_of_error (by rw [heq])]
      rw [heq] at herr
      obtain ⟨hl', howners⟩ := herr e rfl
      obtain ⟨hl'', hstopped⟩ := owners_stopModules hl' run.started
      refine ⟨hl'', nofun, fun _ _ => ?_⟩
      rw [hstopped, howners]
      simp [Registry.granted]
    · rename_i run₁ h₁ heq
      rw [startable_cons_of_ok (by rw [heq])]
      rw [heq] at hok hstarted
      obtain ⟨hl₁, hclaims⟩ := hok run₁ rfl
      obtain ⟨hone, -⟩ := hstarted run₁ rfl
      obtain ⟨hl', hall, hfall⟩ := ih hl₁ run₁
      have hlist (us : List HostModule) : run₁.started ++ us = run.started ++ m :: us := by
        rw [hone, List.append_assoc]
        rfl
      refine ⟨hl', fun run' hrun => ?_, fun e he => ?_⟩
      · obtain ⟨hrun', howners⟩ := hall run' hrun
        exact ⟨hrun'.trans (hlist _), howners.trans (hclaims _)⟩
      · rw [hfall e he, hlist, hclaims]

/-- **Who is left after modules were started and stopped**, or could not all be started: who owned categories
before and whose claims were granted, but for the names of the modules that ran. After a start that failed there
is nothing left to stop. -/
theorem owners_restart (hl : h.Listening) (hidle : h.framework.running = none) :
    let us := startable h.framework.modules {}
    let h' := h.startFramework.2.stopFramework
    ((∀ run, h.startFramework.2.framework.running = some run → run.started = us) ∧
      ∀ e, h.startFramework.1 = .error e → h' = h.startFramework.2) ∧
    h'.Listening ∧ h'.book.registry.owners =
      (h.book.registry.owners ++ h.book.registry.granted (us.filterMap (·.claim))).filter
        (fun c => us.all (fun m => m.id != c.owner)) := by
  have hl' : h.markStart.Listening := ⟨hl.active, hl.owned, hl.hears⟩
  obtain ⟨hlistens, hall, hfall⟩ := owners_startModules hl' h.framework.modules {}
  obtain ⟨e, h₁, heq, -, hnone, hstart⟩ | ⟨run, h₁, heq, -, hstart⟩ := startFramework_cases hidle
  · rw [heq] at hlistens hfall
    have hstop : h₁.stopFramework = h₁ := by
      unfold stopFramework
      rw [hnone]
    rw [hstart]
    refine ⟨⟨fun run hrun => (nomatch hnone.symm.trans hrun), fun _ _ => hstop⟩, ?_⟩
    show h₁.stopFramework.Listening ∧ h₁.stopFramework.book.registry.owners = _
    rw [hstop]
    exact ⟨hlistens, hfall e rfl⟩
  · rw [heq] at hlistens hall
    obtain ⟨hstarted, howners⟩ := hall run rfl
    have hl₁ : Listening { h₁ with framework := { h₁.framework with running := none } } :=
      ⟨hlistens.active, hlistens.owned, hlistens.hears⟩
    obtain ⟨hl₂, hleft⟩ := owners_stopModules hl₁ run.started
    rw [hstart]
    refine ⟨⟨fun run' hrun' => ?_, nofun⟩, hl₂, hleft.trans ?_⟩
    · obtain rfl := Option.some.inj hrun'
      exact hstarted
    · rw [hstarted]
      exact congrArg _ howners

/-- Owners are the same after some came and some went exactly if those that went are those that came. -/
theorem filter_append_eq_left_iff {before after : List Claim} {p : Claim → Bool}
    (hnodup : ((before ++ after).map (·.owner)).Nodup) :
    (before ++ after).filter p = before ↔ (∀ c ∈ before, p c = true) ∧ ∀ c ∈ after, p c = false := by
  rw [List.map_append, List.nodup_append] at hnodup
  constructor
  · intro heq
    have hkept (c : Claim) : c ∈ before ↔ c ∈ before ++ after ∧ p c = true := by
      rw [← List.mem_filter, heq]
    refine ⟨fun c hc => ((hkept c).1 hc).2, fun c hc => ?_⟩
    by_contra hp
    rw [Bool.not_eq_false] at hp
    have hc' := (hkept c).2 ⟨List.mem_append_right _ hc, hp⟩
    exact hnodup.2.2 _ (List.mem_map_of_mem hc') _ (List.mem_map_of_mem hc) rfl
  · rintro ⟨hkept, hgone⟩
    rw [List.filter_append, List.filter_eq_self.2 hkept, List.filter_eq_nil_iff.2 fun c hc => by simp [hgone c hc],
      List.append_nil]

/-- **When modules leave no claim behind.** After modules were started and stopped again, or could not all be
started, the registry has the owners and the index that it had before exactly if each claim that was granted says
the name of a module that ran, and no module that ran has the name of an owner from before. Then claims are
answered as they would have been before. In any case what is left is what was there and what was granted, but for
the names of the modules that ran. -/
theorem claims_returned_iff (h : Host) (hactive : h.book.registry.state = .active) (howned : h.book.registry.Owned)
    (hhears : .registry ∈ h.bus.audience) (hidle : h.framework.running = none) :
    let r := h.book.registry
    let us := startable h.framework.modules {}
    let granted := r.granted (us.filterMap (·.claim))
    let h' := h.startFramework.2.stopFramework
    let r' := h'.book.registry
    ((∀ run, h.startFramework.2.framework.running = some run → run.started = us) ∧
      ∀ e, h.startFramework.1 = .error e → h' = h.startFramework.2) ∧
    r'.state = .active ∧
    r'.owners = (r.owners ++ granted).filter (fun c => us.all (fun m => m.id != c.owner)) ∧
    (r.SameClaims r' ↔ (∀ c ∈ r.owners, ∀ m ∈ us, m.id ≠ c.owner) ∧ ∀ c ∈ granted, ∃ m ∈ us, m.id = c.owner) ∧
    (r.SameClaims r' → ∀ c, r'.refusal? c = r.refusal? c) := by
  intro r us granted h' r'
  obtain ⟨hstart, hl, howners⟩ := owners_restart ⟨hactive, howned, hhears⟩ hidle
  refine ⟨hstart, hl.active, howners, ?_, fun hsame => hsame.refusal? (hl.active.trans hactive.symm)⟩
  have hsame : r.SameClaims r' ↔
      (r.owners ++ granted).filter (fun c => us.all (fun m => m.id != c.owner)) = r.owners :=
    ⟨fun hs => howners.symm.trans hs.owners, fun heq => howned.sameClaims hl.owned (howners.trans heq)⟩
  have hkept (c : Claim) : us.all (fun m => m.id != c.owner) = true ↔ ∀ m ∈ us, m.id ≠ c.owner := by simp
  have hgone (c : Claim) : us.all (fun m => m.id != c.owner) = false ↔ ∃ m ∈ us, m.id = c.owner := by simp
  rw [hsame, filter_append_eq_left_iff (howned.granted _)]
  simp only [hkept, hgone]
  exact Iff.rfl

/-- A host on an empty machine, with a registry that was started, granted some claims and listens. -/
def onEmptyMachine (claims : List Claim) (modules : List HostModule) : Host :=
  let now : Instant := ⟨1792231200, 0, 0⟩
  let m : Machine := { now, fileTime := now }
  { settings := {}
    bootId := "boot"
    book := ((Course.start { file := { path := "host.log" } } m).run (.init :: claims.map .claim)).book
    framework := { modules }
    bus := { listeners := [(0, .registry)], nextId := 1 } }

/-- A module with a claim in its own name, and one that refuses to be activated: the start fails, and nothing
stays. -/
theorem claims_returned_iff_own_name :
    let h := onEmptyMachine [] [{ id := "a", claim := some ⟨"a", .ofList ["x"], .upTo .debug, false⟩ },
      { id := "b", refusal := some "no" }]
    h.book.registry.state = .active ∧ h.book.registry.Owned ∧ .registry ∈ h.bus.audience ∧
      h.framework.running = none ∧ h.startFramework.1 = .error (.activation "b" "no") ∧
      h.book.registry.SameClaims h.startFramework.2.stopFramework.book.registry := by
  intro h
  have hactive : h.book.registry.state = .active := by decide +kernel
  have howned : h.book.registry.Owned := (Course.owned_and_live_run _ _ _).1
  have hhears : .registry ∈ h.bus.audience := List.mem_singleton_self _
  obtain ⟨-, -, -, hsame, -⟩ := claims_returned_iff h hactive howned hhears rfl
  exact ⟨hactive, howned, hhears, rfl, by decide +kernel, hsame.2 ⟨by decide +kernel, by decide +kernel⟩⟩

/-- **Modules do leave claims behind**, and take those of others along. Module `a` claims a category for `b`:
after it was started and stopped, `b` owns the category still, and the same claim is refused from then on. And a
module that claims nothing takes the owner of its name along, who was there before. -/
theorem claim_left_behind :
    let c : Claim := ⟨"b", .ofList ["x"], .upTo .debug, false⟩
    let h := onEmptyMachine [] [{ id := "a", claim := some c }]
    let h' := h.startFramework.2.stopFramework
    let other := onEmptyMachine [c] [{ id := "b" }]
    h.startFramework.1 = .ok () ∧ h.book.registry.owners = [] ∧ h'.book.registry.owners = [c] ∧
      h'.book.registry.refusal? c = some (.duplicateOwner "b") ∧
      other.startFramework.1 = .ok () ∧ other.book.registry.owners = [c] ∧
      other.startFramework.2.stopFramework.book.registry.owners = [] := by
  decide +kernel

end Host

end ModuleHost
