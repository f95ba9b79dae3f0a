import Mathlib
import ModuleHost.Proofs.Lifecycle.Round

/-!
# The order of startup

Which hooks are given a turn, one after another, and how that ends. Hooks may be of any kind, and do whatever they
like.

* `StartupHook.Canonical`: for each name one hook of the lowest priority, in the order of priorities and names.
* `HookTurn`, `Host.TakesTurns`, `HookTurn.Ends`: turns, one after another, up to the first that fails.
* `Host.startup_orderly`: the hooks that are run are the canonical ones.
* `Host.startup_perm`: hooks that are alike if they have the same name and priority can be registered in any
  order.
* `StartupHook.Discreet`: a hook that leaves it to the host to remember and to count who had a turn, as every hook
  that the host knows does.
* `Host.startup_canonical`: **the order of startup is canonical**.
-/

namespace ModuleHost

/-- The hook that was given its turn, if the deed is that. -/
def Deed.ran? : Deed → Option String
  | .ran name => some name
  | _ => none

/-! ### Plans -/

namespace StartupHook

variable {α : Type} [StartupHook α] {a b : α} {hooks hooks' plan : List α} {executed : List String}

/-- By what hooks are ordered: by priority, and then by name. -/
def rank (a : α) : Int ×ₗ String :=
  toLex (priority a, name a)

/-- **The canonical plan for some hooks**: for each of their names one hook of the lowest priority under that
name, and these in increasing order. -/
structure Canonical (hooks plan : List α) : Prop where
  declared : ∀ a ∈ plan, a ∈ hooks
  covering : ∀ b ∈ hooks, ∃ a ∈ plan, name a = name b
  once : (plan.map name).Nodup
  lowest : ∀ a ∈ plan, ∀ b ∈ hooks, name b = name a → priority a ≤ priority b
  increasing : plan.Pairwise (fun a b => rank a < rank b)

theorem goesBefore_iff : Hook.goesBefore a b = true ↔ rank a ≤ rank b := by
  simp [Hook.goesBefore, rank, Prod.Lex.toLex_le_toLex]

theorem eq_of_rank_eq (h : rank a = rank b) : priority a = priority b ∧ name a = name b :=
  Prod.mk.inj (toLex.injective h)

theorem priority_le_of_rank_le (h : rank a ≤ rank b) : priority a ≤ priority b := by
  rw [rank, rank, Prod.Lex.toLex_le_toLex] at h
  obtain hlt | ⟨heq, -⟩ := h
  · exact hlt.le
  · exact heq.le

theorem schedule_perm (hooks : List α) : (Hook.schedule hooks).Perm hooks :=
  List.mergeSort_perm hooks Hook.goesBefore

theorem schedule_sorted (hooks : List α) : (Hook.schedule hooks).Pairwise (fun a b => rank a ≤ rank b) := by
  have hsorted : (Hook.schedule hooks).Pairwise (fun a b => Hook.goesBefore a b = true) := by
    refine List.pairwise_mergeSort (fun a b c hab hbc => ?_) (fun a b => ?_) hooks
    · rw [goesBefore_iff] at hab hbc ⊢
      exact hab.trans hbc
    · rw [Bool.or_eq_true, goesBefore_iff, goesBefore_iff]
      exact le_total _ _
  exact hsorted.imp goesBefore_iff.1

/-- The hooks that are still to have a turn: the first of each name that was not executed. -/
def due : List α → (executed : List String) → List α
  | [], _ => []
  | a :: rest, executed =>
    if executed.contains (name a) then due rest executed else a :: due rest (executed ++ [name a])

theorem due_sublist (hooks : List α) : ∀ executed, (due hooks executed).Sublist hooks := by
  induction hooks with
  | nil => exact fun _ => List.Sublist.slnil
  | cons a rest ih =>
    intro executed
    unfold due
    split
    · exact (ih _).cons a
    · exact (ih _).cons_cons a

theorem name_notMem_of_mem_due (h : a ∈ due hooks executed) : name a ∉ executed := by
  induction hooks generalizing executed with
  | nil => exact absurd h List.not_mem_nil
  | cons b rest ih =>
    unfold due at h
    split at h
    · exact ih h
    · rename_i hb
      rw [List.contains_iff_mem] at hb
      obtain rfl | h := List.mem_cons.1 h
      · exact hb
      · exact fun hmem => ih h (List.mem_append_left _ hmem)

theorem nodup_due (hooks : List α) : ∀ executed, ((due hooks executed).map name).Nodup := by
  induction hooks with
  | nil => exact fun _ => List.nodup_nil
  | cons a rest ih =>
    intro executed
    unfold due
    split
    · exact ih _
    · refine List.nodup_cons.2 ⟨fun hmem => ?_, ih _⟩
      obtain ⟨b, hb, hname⟩ := List.mem_map.1 hmem
      exact name_notMem_of_mem_due hb (by simp [hname])

/-- A hook was executed under its name, or one of its name has a turn. -/
theorem covering_due (h : b ∈ hooks) : name b ∈ executed ∨ ∃ a ∈ due hooks executed, name a = name b := by
  induction hooks generalizing executed with
  | nil => exact absurd h List.not_mem_nil
  | cons c rest ih =>
    unfold due
    split
    · rename_i hc
      rw [List.contains_iff_mem] at hc
      obtain rfl | h := List.mem_cons.1 h
      · exact Or.inl hc
      · exact ih h
    · obtain rfl | h := List.mem_cons.1 h
      · exact Or.inr ⟨b, List.mem_cons_self, rfl⟩
      · have hrest : name b ∈ executed ++ [name c] ∨ _ := ih h
        obtain hmem | ⟨a, ha, hname⟩ := hrest
        · obtain hmem | hmem := List.mem_append.1 hmem
          · exact Or.inl hmem
          · exact Or.inr ⟨c, List.mem_cons_self, (List.mem_singleton.1 hmem).symm⟩
        · exact Or.inr ⟨a, List.mem_cons_of_mem _ ha, hname⟩

/-- Among hooks in order, the one of its name that has a turn comes first. -/
theorem lowest_due (hs : hooks.Pairwise (fun a b => rank a ≤ rank b)) (ha : a ∈ due hooks executed)
    (hb : b ∈ hooks) (hname : name b = name a) : rank a ≤ rank b := by
  induction hooks generalizing executed with
  | nil => exact absurd hb List.not_mem_nil
  | cons c rest ih =>
    rw [List.pairwise_cons] at hs
    have hmem : a ∈ c :: rest := (due_sublist _ _).subset ha
    unfold due at ha
    split at ha
    · rename_i hc
      rw [List.contains_iff_mem] at hc
      obtain rfl | hb := List.mem_cons.1 hb
      · -- the name of `b` was executed, so `a` has another one
        exact absurd (hname ▸ hc) (name_notMem_of_mem_due ha)
      · exact ih hs.2 ha hb
    · obtain rfl | ha := List.mem_cons.1 ha
      · obtain rfl | hb := List.mem_cons.1 hb
        · exact le_rfl
        · exact hs.1 b hb
      · obtain rfl | hb := List.mem_cons.1 hb
        · exact absurd (by simp [hname]) (name_notMem_of_mem_due ha)
        · exact ih hs.2 ha hb

/-- **The hooks that have a turn, in the order of their schedule, are canonical.** -/
theorem canonical_due (hooks : List α) : Canonical hooks (due (Hook.schedule hooks) []) := by
  have hmem (a : α) : a ∈ Hook.schedule hooks ↔ a ∈ hooks := (schedule_perm hooks).mem_iff
  have hsub := due_sublist (Hook.schedule hooks) []
  have hsorted := schedule_sorted hooks
  have honce := nodup_due (Hook.schedule hooks) []
  refine ⟨fun a ha => (hmem a).1 (hsub.subset ha), fun b hb => ?_, honce, fun a ha b hb hname => ?_, ?_⟩
  · have hcovered : name b ∈ [] ∨ _ := covering_due ((hmem b).2 hb)
    obtain hnil | hdue := hcovered
    · exact absurd hnil List.not_mem_nil
    · exact hdue
  · exact priority_le_of_rank_le (lowest_due hsorted ha ((hmem b).2 hb) hname)
  · -- hooks of one rank would have one name, and each name stands once
    refine (hsorted.sublist hsub).imp₂ (fun a b hle hne => lt_of_le_of_ne hle fun heq => ?_)
      (List.pairwise_map.1 honce)
    exact hne (eq_of_rank_eq heq).2

theorem Canonical.perm (h : Canonical hooks plan) (hp : hooks'.Perm hooks) : Canonical hooks' plan :=
  ⟨fun a ha => hp.mem_iff.2 (h.declared a ha), fun b hb => h.covering b (hp.mem_iff.1 hb), h.once,
    fun a ha b hb => h.lowest a ha b (hp.mem_iff.1 hb), h.increasing⟩

end StartupHook

/-! ### Turns -/

/-- **A turn**: a hook, and the host that gives it its turn. -/
structure HookTurn (α : Type) where
  hook : α
  host : Host

open StartupHook (name rank Canonical due)

variable {α : Type} [StartupHook α] {a b : α} {hooks hooks' plan : List α} {h h' h'' : Host}

namespace HookTurn

/-- How the hook answers. -/
def answer (t : HookTurn α) : Except String Unit :=
  (StartupHook.perform (t.host.callHook t.hook) t.hook).1

/-- The host that the hook leaves. -/
def left (t : HookTurn α) : Host :=
  (StartupHook.perform (t.host.callHook t.hook) t.hook).2

/-- The host after the turn. -/
def after (t : HookTurn α) : Host :=
  (t.host.runHook t.hook).2

/-- **How turns that were planned end**: all hooks had theirs and succeeded, or the last one that had a turn
failed, and the rest of the plan had none. -/
inductive Ends {β : Type} (plan : List α) (ready : β) : List (HookTurn α) → Except StartupError β → Prop where
  | ready {ts : List (HookTurn α)} :
      plan = ts.map (·.hook) → (∀ t ∈ ts, t.answer = .ok ()) → Ends plan ready ts (.ok ready)
  | failed {ts : List (HookTurn α)} {t : HookTurn α} {rest : List α} {source : String} :
      plan = ts.map (·.hook) ++ t.hook :: rest → (∀ t ∈ ts, t.answer = .ok ()) → t.answer = .error source →
      Ends plan ready (ts ++ [t]) (.error (.initialization (name t.hook) source))

variable {β : Type} {ready : β} {t : HookTurn α} {ts : List (HookTurn α)} {r : Except StartupError β}

theorem Ends.of_error {source : String} (ht : t.answer = .error source) :
    Ends (t.hook :: plan) ready [t] (.error (.initialization (name t.hook) source)) := by
  have hnone : ∀ u ∈ ([] : List (HookTurn α)), u.answer = .ok () := List.forall_mem_nil _
  exact .failed rfl hnone ht

theorem Ends.cons (ht : t.answer = .ok ()) (he : Ends plan ready ts r) :
    Ends (t.hook :: plan) ready (t :: ts) r := by
  have hall {us : List (HookTurn α)} (hus : ∀ u ∈ us, u.answer = .ok ()) : ∀ u ∈ t :: us, u.answer = .ok () :=
    List.forall_mem_cons.2 ⟨ht, hus⟩
  cases he with
  | ready hplan hok => exact .ready (congrArg (t.hook :: ·) hplan) (hall hok)
  | failed hplan hok hsource => exact .failed (congrArg (t.hook :: ·) hplan) (hall hok) hsource

/-- All went well exactly if no hook that had a turn failed. -/
theorem Ends.ok_iff (he : Ends plan ready ts r) : r = .ok ready ↔ ∀ t ∈ ts, t.answer = .ok () := by
  cases he with
  | ready _ hok => exact iff_of_true rfl hok
  | failed _ _ hsource =>
    refine iff_of_false nofun fun hok => ?_
    rw [hok _ (List.mem_append_right _ List.mem_cons_self)] at hsource
    cases hsource

/-- Only hooks that were planned have a turn. -/
theorem Ends.planned (he : Ends plan ready ts r) : ∀ t ∈ ts, t.hook ∈ plan := by
  cases he with
  | ready hplan _ =>
    intro t ht
    rw [hplan]
    exact List.mem_map_of_mem ht
  | failed hplan _ _ =>
    intro t ht
    rw [hplan]
    obtain ht | ht := List.mem_append.1 ht
    · exact List.mem_append_left _ (List.mem_map_of_mem ht)
    · rw [List.mem_singleton.1 ht]
      exact List.mem_append_right _ List.mem_cons_self

theorem Ends.map {γ : Type} (f : β → γ) (he : Ends plan ready ts r) : Ends plan (f ready) ts (r.map f) := by
  cases he with
  | ready hplan hok => exact .ready hplan hok
  | failed hplan hok hsource => exact .failed hplan hok hsource

end HookTurn

open HookTurn (Ends)

namespace Host

/-- **Turns, one after another**, with nothing but reports between them. -/
inductive TakesTurns : Host → List (HookTurn α) → Host → Prop where
  | done (h : Host) : TakesTurns h [] h
  | reported {h h' : Host} {ts : List (HookTurn α)} (e : LogEvent) :
      TakesTurns (h.report e) ts h' → TakesTurns h ts h'
  | turn {h h' : Host} {ts : List (HookTurn α)} (a : α) :
      TakesTurns (h.runHook a).2 ts h' → TakesTurns h (⟨a, h⟩ :: ts) h'

/-- A hook that fails is named, with what it said. -/
theorem runHook_fst (h : Host) (a : α) :
    (h.runHook a).1 = (HookTurn.answer ⟨a, h⟩).mapError (.initialization (name a)) := by
  unfold runHook HookTurn.answer
  split
  · rename_i heq
    rw [heq]
    rfl
  · rename_i heq
    rw [heq]
    rfl

/-- **Hooks, one after another**: those have a turn that are due, up to the first that fails. -/
theorem runHooks_turns (hooks : List α) (executed : List String) (h : Host) :
    ∃ ts, TakesTurns h ts (runHooks hooks executed h).2 ∧
      Ends (due hooks executed) (executed ++ (due hooks executed).map name) ts (runHooks hooks executed h).1 := by
  induction hooks generalizing executed h with
  | nil =>
    refine ⟨[], .done h, ?_⟩
    rw [due, List.map_nil, List.append_nil]
    exact .ready rfl (List.forall_mem_nil _)
  | cons a rest ih =>
    unfold runHooks due
    split
    · -- the name was executed already: the hook is reported, and has no turn
      obtain ⟨ts, hturns, hends⟩ := ih executed (h.sayHook a .warn "Duplicate startup hook ignored" (onPriority a))
      exact ⟨ts, .reported _ hturns, hends⟩
    · have hrun : h.runHook a =
          ((HookTurn.answer ⟨a, h⟩).mapError (.initialization (name a)), HookTurn.after ⟨a, h⟩) :=
        Prod.ext (runHook_fst h a) rfl
      rw [hrun]
      cases ha : HookTurn.answer ⟨a, h⟩ with
      | error source => exact ⟨[⟨a, h⟩], .turn a (.done _), .of_error ha⟩
      | ok =>
        obtain ⟨ts, hturns, hends⟩ := ih (executed ++ [name a]) (HookTurn.after ⟨a, h⟩)
        rw [List.append_assoc] at hends
        exact ⟨⟨a, h⟩ :: ts, .turn a hturns, hends.cons ha⟩

/-! ### All hooks -/

/-- **A startup in order**: a plan for some hooks, and the turns that were taken by it. -/
structure Orderly (h : Host) (hooks plan : List α) (ts : List (HookTurn α)) : Prop where
  canonical : Canonical hooks plan
  turns : TakesTurns h ts (h.startup hooks).2
  ends : Ends plan ({ executed := plan.map name } : Ready) ts (h.startup hooks).1

theorem startup_of_ne_nil (h : Host) (hne : hooks ≠ []) :
    h.startup hooks = ((runHooks (Hook.schedule hooks) [] h).1.map fun executed => ({ executed } : Ready),
      (runHooks (Hook.schedule hooks) [] h).2) := by
  have hsome : ¬ hooks.isEmpty = true := by simpa using hne
  unfold startup
  rw [if_neg hsome]
  split
  · rename_i heq
    rw [heq]
    rfl
  · rename_i heq
    rw [heq]
    rfl

/-- **The hooks that are run are the canonical ones.** -/
theorem startup_orderly (h : Host) (hne : hooks ≠ []) :
    ∃ ts, Orderly h hooks (due (Hook.schedule hooks) []) ts := by
  obtain ⟨ts, hturns, hends⟩ := runHooks_turns (Hook.schedule hooks) [] h
  refine ⟨ts, StartupHook.canonical_due hooks, ?_, ?_⟩
  · rw [startup_of_ne_nil h hne]
    exact hturns
  · rw [startup_of_ne_nil h hne]
    exact hends.map fun executed => ({ executed } : Ready)

/-! ### Any order of registration -/

/-- Hooks that do the same to every host. -/
def Alike (a b : α) : Prop :=
  ∀ h : Host, StartupHook.perform h a = StartupHook.perform h b

theorem runHook_congr (hrank : rank a = rank b) (halike : Alike a b) (h : Host) : h.runHook a = h.runHook b := by
  obtain ⟨hpriority, hname⟩ := StartupHook.eq_of_rank_eq hrank
  unfold runHook callHook sayHook onPriority
  rw [hpriority, hname, halike]

/-- Hooks of the same names and priorities, one by one, that are alike. -/
theorem runHooks_congr (hranks : hooks'.map rank = hooks.map rank)
    (halike : ∀ a ∈ hooks', ∀ b ∈ hooks, rank a = rank b → Alike a b) (executed : List String) (h : Host) :
    runHooks hooks' executed h = runHooks hooks executed h := by
  induction hooks generalizing hooks' executed h with
  | nil => rw [List.map_eq_nil_iff.1 hranks]
  | cons b rest ih =>
    cases hooks' with
    | nil => cases hranks
    | cons a rest' =>
      obtain ⟨hrank, hranks⟩ := List.cons.inj hranks
      obtain ⟨hpriority, hname⟩ := StartupHook.eq_of_rank_eq hrank
      have hrest := ih hranks fun a ha b hb => halike a (List.mem_cons_of_mem _ ha) b (List.mem_cons_of_mem _ hb)
      have hrun := runHook_congr hrank (halike a List.mem_cons_self b List.mem_cons_self hrank) h
      unfold runHooks sayHook onPriority
      simp only [hpriority, hname, hrun, hrest]

theorem map_rank_schedule (hp : hooks'.Perm hooks) :
    (Hook.schedule hooks').map rank = (Hook.schedule hooks).map rank := by
  have hsorted (hooks : List α) : ((Hook.schedule hooks).map rank).Pairwise (· ≤ ·) :=
    List.pairwise_map.2 (StartupHook.schedule_sorted hooks)
  have hperm := (StartupHook.schedule_perm hooks').trans (hp.trans (StartupHook.schedule_perm hooks).symm)
  exact (hperm.map rank).eq_of_pairwise (fun _ _ _ _ => le_antisymm) (hsorted hooks') (hsorted hooks)

/-- **Hooks can be registered in any order**, if those of the same name and priority are alike. -/
theorem startup_perm (h : Host) (hp : hooks'.Perm hooks)
    (halike : ∀ a ∈ hooks, ∀ b ∈ hooks, rank a = rank b → Alike a b) : h.startup hooks' = h.startup hooks := by
  by_cases hne : hooks = []
  · rw [hne] at hp ⊢
    rw [hp.eq_nil]
  · have hne' : hooks' ≠ [] := fun hnil => hne (hnil ▸ hp).nil_eq.symm
    have hruns := runHooks_congr (map_rank_schedule hp) (fun a ha b hb =>
      halike a (hp.mem_iff.1 ((StartupHook.schedule_perm hooks').mem_iff.1 ha)) b
        ((StartupHook.schedule_perm hooks).mem_iff.1 hb)) [] h
    rw [startup_of_ne_nil h hne, startup_of_ne_nil h hne', hruns]

theorem Orderly.perm {ts : List (HookTurn α)} (ho : Orderly h hooks plan ts) (hp : hooks'.Perm hooks)
    (heq : h.startup hooks' = h.startup hooks) : Orderly h hooks' plan ts :=
  ⟨ho.canonical.perm hp, heq ▸ ho.turns, heq ▸ ho.ends⟩

/-! ### Who had a turn, and who is counted -/

/-- **The hooks that had a turn**, as they are remembered. -/
def turnsTaken (h : Host) : List String :=
  (h.history.filterMap Deed.ran?).reverse

/-- How often a hook was completed, as it is counted. -/
def completions (h : Host) (name : String) : Nat :=
  (Table.find h.book.machine.meters.hooks name).getD 0

/-- **A host that went on** without a turn of a hook, and without counting one. -/
structure Unturned (h h' : Host) : Prop where
  turnsTaken : h'.turnsTaken = h.turnsTaken
  counted : h'.book.machine.meters.hooks = h.book.machine.meters.hooks

theorem Unturned.refl (h : Host) : Unturned h h := ⟨rfl, rfl⟩

theorem Unturned.trans (hu : Unturned h h') (hu' : Unturned h' h'') : Unturned h h'' :=
  ⟨hu'.turnsTaken.trans hu.turnsTaken, hu'.counted.trans hu.counted⟩

theorem Unturned.completions (hu : Unturned h h') (name : String) : h'.completions name = h.completions name := by
  unfold Host.completions
  rw [hu.counted]

theorem Unturned.foldl {β : Type} {f : Host → β → Host} (hf : ∀ h b, Unturned h (f h b)) (bs : List β) :
    ∀ h : Host, Unturned h (bs.foldl f h) := by
  induction bs with
  | nil => exact Unturned.refl
  | cons b bs ih => exact fun h => (hf h b).trans (ih _)

theorem unturned_book (h : Host) {book : Logbook} (hk : Logbook.Kept h.book book) :
    Unturned h { h with book } := by
  refine ⟨rfl, ?_⟩
  show book.machine.meters.hooks = h.book.machine.meters.hooks
  rw [hk.machine.meters]

theorem unturned_report (h : Host) (e : LogEvent) : Unturned h (h.report e) :=
  unturned_book h (Logbook.kept_emit _ e)

theorem unturned_sayHook (h : Host) (a : α) (s : Severity) (message : String) (more : List (String × FieldValue)) :
    Unturned h (h.sayHook a s message more) :=
  unturned_report h _

theorem unturned_record (h : Host) {d : Deed} (hd : d.ran? = none) : Unturned h (h.record d) := by
  refine ⟨?_, rfl⟩
  unfold Host.turnsTaken record
  rw [List.filterMap_cons_none hd]

theorem unturned_dispatch (h : Host) (e : HostEvent) : Unturned h (h.dispatch e) := by
  have hhear (h : Host) (l : HostListener) : Unturned h (h.hear e l) := by
    cases l with
    | registry => exact unturned_book h (Logbook.kept_hear _ e)
    | diary => exact unturned_record h rfl
  have hsaid := unturned_report h (h.bus.notice e)
  exact (hsaid.trans (unturned_record _ rfl)).trans (Unturned.foldl hhear _ _)

/-! ### Hooks that the host knows -/

theorem unturned_grantClaim (h : Host) (m : HostModule) : Unturned h (h.grantClaim m) := by
  unfold grantClaim
  cases m.claim with
  | none => exact Unturned.refl h
  | some c =>
    have hbook := unturned_book h (Logbook.kept_claim h.book c)
    simp only
    split
    · rename_i heq
      rw [heq] at hbook
      exact hbook
    · rename_i heq
      rw [heq] at hbook
      exact hbook.trans (unturned_report _ _)

theorem unturned_stopModules (h : Host) (us : List HostModule) : Unturned h (h.stopModules us) :=
  Unturned.foldl (fun h _ =>
    ((unturned_record h rfl).trans (unturned_report _ _)).trans (unturned_dispatch _ _)) _ h

theorem unturned_startModule (h : Host) (m : HostModule) (run : Running) : Unturned h (h.startModule m run).2 := by
  unfold startModule
  cases m.refusal with
  | some source => exact (unturned_record h rfl).trans (unturned_report _ _)
  | none =>
    have hactivated := unturned_record h (d := .activated m) rfl
    cases mergeRoutes run m with
    | error f => exact (hactivated.trans (unturned_report _ _)).trans (unturned_record _ rfl)
    | ok router =>
      exact ((hactivated.trans (unturned_grantClaim _ m)).trans (unturned_report _ _)).trans
        (unturned_dispatch _ _)

theorem unturned_startModules (ms : List HostModule) :
    ∀ (run : Running) (h : Host), Unturned h (startModules ms run h).2 := by
  induction ms with
  | nil => exact fun _ => Unturned.refl
  | cons m ms ih =>
    intro run h
    have hone := unturned_startModule h m run
    unfold startModules
    split
    · rename_i heq
      rw [heq] at hone
      exact hone.trans (unturned_stopModules _ _)
    · rename_i heq
      rw [heq] at hone
      exact hone.trans (ih _ _)

theorem unturned_bringUpModules (h : Host) : Unturned h h.bringUpModules.2 := by
  have hstart : Unturned h h.startFramework.2 := by
    obtain ⟨hturns, hcounted⟩ := unturned_startModules h.framework.modules {} h.markStart
    unfold startFramework
    split
    · exact Unturned.refl h
    · split
      · rename_i heq
        rw [heq] at hturns hcounted
        exact ⟨hturns, hcounted⟩
      · rename_i heq
        rw [heq] at hturns hcounted
        exact ⟨hturns, hcounted⟩
  unfold bringUpModules
  split
  · rename_i heq
    rw [heq] at hstart
    exact hstart
  · rename_i heq
    rw [heq] at hstart
    exact hstart.trans (unturned_dispatch _ _)

theorem unturned_prepareModulesRoot (h : Host) : Unturned h h.prepareModulesRoot.2 := by
  let root := h.settings.modules.rootDir
  let disk := (Disk.createDirs root h.book.machine.disk).2
  let made : Host := { h with book := { h.book with machine := { h.book.machine with disk } } }
  have hmade : Unturned h made := ⟨rfl, rfl⟩
  have hset : Unturned made (made.setAttribute modulesRootAttribute root) := ⟨rfl, rfl⟩
  unfold prepareModulesRoot
  simp only
  split
  · exact hmade
  · exact (hmade.trans hset).trans (unturned_report _ _)

theorem unturned_runCustom (h : Host) (c : CustomHook) : Unturned h (h.runCustom c).2 := by
  have hsets := Unturned.foldl (f := fun h (kv : String × String) => h.setAttribute kv.1 kv.2)
    (fun _ _ => ⟨rfl, rfl⟩) c.sets (h.note (.hook c.name))
  have hlooks := Unturned.foldl (f := fun h (k : String) => h.note (.looked k (h.attributes.get? k)))
    (fun h _ => unturned_record h rfl) c.reads
  have hall := ((unturned_record h (d := .noted (.hook c.name)) rfl).trans hsets).trans (hlooks _)
  unfold runCustom
  cases c.refusal <;> exact hall

end Host

/-- **A hook that leaves it to the host** to remember and to count who had a turn. -/
def StartupHook.Discreet (a : α) : Prop :=
  ∀ h : Host, h.Unturned (perform h a).2

theorem Hook.discreet (hook : Hook) : StartupHook.Discreet hook := by
  cases hook with
  | modulesRoot => exact Host.unturned_prepareModulesRoot
  | moduleFramework => exact Host.unturned_bringUpModules
  | custom c => exact fun h => h.unturned_runCustom c

namespace HookTurn

/-- Whether the hook succeeded. -/
def succeeded (t : HookTurn α) : Bool :=
  t.answer.isOk

/-- The hooks that had a turn. -/
def names (ts : List (HookTurn α)) : List String :=
  ts.map fun t => name t.hook

/-- The hooks that had a turn and succeeded. -/
def completed (ts : List (HookTurn α)) : List String :=
  names (ts.filter succeeded)

end HookTurn

namespace Host

open HookTurn (names completed)
open StartupHook (priority Discreet)

variable {ts : List (HookTurn α)}

theorem turnsTaken_callHook (h : Host) (a : α) : (h.callHook a).turnsTaken = h.turnsTaken ++ [name a] := by
  rw [← (unturned_sayHook h a .info "Running startup hook" (onPriority a)).turnsTaken]
  exact List.reverse_cons

theorem completions_callHook (h : Host) (a : α) (x : String) : (h.callHook a).completions x = h.completions x :=
  (unturned_sayHook h a .info "Running startup hook" (onPriority a)).completions x

theorem completions_count (h : Host) (hook x : String) :
    ({ h with book := h.book.count (·.countHook hook) } : Host).completions x =
      h.completions x + if hook = x then 1 else 0 :=
  find_bumpCount hook x h.book.machine.meters.hooks

/-- **What comes after a hook counts it if it succeeded**, and counts nothing else. -/
theorem after_spec (t : HookTurn α) :
    t.after.turnsTaken = t.left.turnsTaken ∧
      ∀ x, t.after.completions x =
        t.left.completions x + if t.succeeded = true ∧ name t.hook = x then 1 else 0 := by
  unfold HookTurn.after HookTurn.left HookTurn.succeeded HookTurn.answer runHook
  split
  · rename_i source h₁ heq
    rw [heq]
    have hsaid := unturned_sayHook h₁ t.hook .error "Startup hook failed" [("error", .shown source)]
    refine ⟨hsaid.turnsTaken, fun x => ?_⟩
    rw [hsaid.completions, if_neg fun hok => Bool.false_ne_true hok.1, Nat.add_zero]
  · rename_i h₁ heq
    rw [heq]
    have hsaid := unturned_sayHook h₁ t.hook .debug "Startup hook completed" [("elapsed_ms", .ofNat 0)]
    refine ⟨hsaid.turnsTaken, fun x => ?_⟩
    rw [completions_count, hsaid.completions]
    exact congrArg _ (if_congr (and_iff_right rfl) rfl rfl).symm

/-- **A turn is remembered, and counted if the hook succeeded**, of a hook that does neither itself. -/
theorem runHook_spec (ha : Discreet a) (h : Host) :
    (h.runHook a).2.turnsTaken = h.turnsTaken ++ [name a] ∧
      ∀ x, (h.runHook a).2.completions x =
        h.completions x + if HookTurn.succeeded ⟨a, h⟩ = true ∧ name a = x then 1 else 0 := by
  obtain ⟨hturns, hcounts⟩ := after_spec ⟨a, h⟩
  have hleft : (h.callHook a).Unturned (HookTurn.left ⟨a, h⟩) := ha (h.callHook a)
  refine ⟨?_, fun x => ?_⟩
  · rw [← turnsTaken_callHook, ← hleft.turnsTaken]
    exact hturns
  · rw [← completions_callHook h a, ← hleft.completions]
    exact hcounts x

/-- **What is remembered and counted of turns**, one after another. -/
theorem TakesTurns.spec (ht : TakesTurns h ts h') (hd : ∀ t ∈ ts, Discreet t.hook) :
    h'.turnsTaken = h.turnsTaken ++ names ts ∧
      ∀ x, h'.completions x =
        h.completions x + (completed ts).count x := by
  induction ht with
  | done h => exact ⟨(List.append_nil _).symm, fun x => rfl⟩
  | reported e _ ih =>
    obtain ⟨hturns, hcounts⟩ := ih hd
    refine ⟨?_, fun x => ?_⟩
    · rw [hturns, (unturned_report _ e).turnsTaken]
    · rw [hcounts, (unturned_report _ e).completions]
  | @turn h h' ts a _ ih =>
    obtain ⟨ha, hd⟩ := List.forall_mem_cons.1 hd
    obtain ⟨hturn, hcount⟩ := runHook_spec ha h
    obtain ⟨hturns, hcounts⟩ := ih hd
    refine ⟨?_, fun x => ?_⟩
    · rw [hturns, hturn, List.append_assoc]
      rfl
    · rw [hcounts, hcount]
      by_cases hs : HookTurn.succeeded ⟨a, h⟩ = true
      · have hcons : completed (⟨a, h⟩ :: ts) = name a :: completed ts := by
          unfold completed names
          rw [List.filter_cons_of_pos hs, List.map_cons]
        rw [hcons, List.count_cons, if_congr (and_iff_right hs) rfl rfl]
        simp only [beq_iff_eq]
        omega
      · have hsame : completed (⟨a, h⟩ :: ts) = completed ts := by
          unfold completed
          rw [List.filter_cons_of_neg hs]
        rw [hsame, if_neg fun hboth => hs hboth.1, Nat.add_zero]

/-- **The order of startup is canonical.** For a host and any hooks of whatever kind, at least one: they have a
canonical plan, which says for each name one hook of the lowest priority under that name, each once, in strictly
increasing order of priority and name. The hooks that have a turn are those of the plan up to the first that
fails. If none fails all is ready, with just these names; otherwise the one that failed is named. After each turn
the hook is counted if it succeeded, and nothing else is; so of hooks that do not do so themselves, exactly those
that had a turn are remembered, and exactly those that succeeded are counted. And if hooks of the same name and
priority are alike, it makes no difference in which order the hooks were registered. -/
theorem startup_canonical (h : Host) (hooks : List α) (hne : hooks ≠ []) :
    ∃ plan ts, Orderly h hooks plan ts ∧
      ((h.startup hooks).1 = .ok { executed := plan.map name } ↔ ∀ t ∈ ts, t.answer = .ok ()) ∧
      (∀ t ∈ ts, ∀ x, t.after.completions x =
        t.left.completions x + if t.succeeded = true ∧ name t.hook = x then 1 else 0) ∧
      ((∀ a ∈ hooks, Discreet a) →
        (h.startup hooks).2.turnsTaken = h.turnsTaken ++ names ts ∧
        ∀ x, (h.startup hooks).2.completions x =
          h.completions x + (completed ts).count x) ∧
      ∀ hooks' : List α, hooks'.Perm hooks →
        (∀ a ∈ hooks, ∀ b ∈ hooks, name a = name b → priority a = priority b → Alike a b) →
        h.startup hooks' = h.startup hooks ∧ Orderly h hooks' plan ts := by
  obtain ⟨ts, ho⟩ := startup_orderly h hne
  refine ⟨due (Hook.schedule hooks) [], ts, ho, ho.ends.ok_iff, fun t _ => (after_spec t).2, fun hd => ?_,
    fun hooks' hp halike => ?_⟩
  · exact ho.turns.spec fun t ht => hd t.hook (ho.canonical.declared _ (ho.ends.planned t ht))
  · have heq := startup_perm h hp fun a ha b hb hrank =>
      halike a ha b hb (StartupHook.eq_of_rank_eq hrank).2 (StartupHook.eq_of_rank_eq hrank).1
    exact ⟨heq, ho.perm hp heq⟩

/-- Four hooks of which two have the same name and one fails: the second of the two has no turn, and what comes
after the failure has none either. -/
theorem startup_canonical_second_fails :
    let now : Instant := ⟨1792231200, 0, 0⟩
    let book : Logbook := { machine := { now, fileTime := now }, registry := .new {} }
    let h : Host := { settings := {}, bootId := "boot", book }
    let hooks : List Hook := [.custom { name := "a", priority := -1 },
      .custom { name := "a", refusal := some "again" },
      .custom { name := "b", priority := 1, refusal := some "no" }, .custom { name := "z", priority := 2 }]
    (∃ plan ts, Orderly h hooks plan ts ∧ names ts = ["a", "b"] ∧ (completed ts).count "b" = 0) ∧
      (h.startup hooks).1.isOk = false ∧ h.startup hooks.reverse = h.startup hooks := by
  intro now book h hooks
  have horder : Hook.schedule hooks = hooks := schedule_of_pairwise (by decide)
  obtain ⟨plan, ts, ho, -, -, hd, hp⟩ := startup_canonical h hooks (by decide)
  obtain ⟨hturns, hcounts⟩ := hd fun a _ => a.discreet
  have halike : ∀ a ∈ hooks, ∀ b ∈ hooks, a.name = b.name → a.priority = b.priority → a = b := by decide
  have hrun : (h.startup hooks).2.turnsTaken = ["a", "b"] ∧ (h.startup hooks).2.completions "b" = 0 ∧
      (h.startup hooks).1.isOk = false := by
    simp only [startup, horder]
    decide +kernel
  refine ⟨⟨plan, ts, ho, ?_, ?_⟩, hrun.2.2, ?_⟩
  · exact hturns.symm.trans hrun.1
  · have hb := hcounts "b"
    rw [hrun.2.1] at hb
    omega
  · exact (hp _ hooks.reverse_perm fun a ha b hb hname hpriority _ =>
      by rw [halike a ha b hb hname hpriority]).1

end Host

end ModuleHost
