import Mathlib
import ModuleHost.Proofs.Http.Binding

/-!
# All listeners or none

A server is started in four stages: the context of the encrypted listener, the addresses of all listeners, binding
them all, and serving on them all. Only the first three can fail, and a failure leaves no address taken.

* `Http.Provisioner.wishes`: the listeners that the settings ask for.
* `Http.Provisioner.trouble?`: **why a server cannot be started**, stage after stage.
* `Http.Provisioner.startOn_eq`: what a start gives and what it does to the logbook, in closed form.
* `Http.Provisioner.starts_all_or_none`: **either all listeners are bound and serve, or none is bound and none
  served**.
* `Http.Provisioner.unmoved_startOn`: a server that cannot be started leaves the same addresses in use as before.
-/

namespace ModuleHost

theorem TlsContext.fst_load (certPath keyPath : String) (b : Logbook) :
    (load certPath keyPath b).1 = ofFiles b.machine.tls b.machine.disk certPath keyPath := by
  unfold load
  cases ofFiles b.machine.tls b.machine.disk certPath keyPath <;> rfl

theorem TlsContext.unmoved_load (certPath keyPath : String) (b : Logbook) :
    Logbook.Unmoved b (load certPath keyPath b).2 := by
  unfold load
  split
  · exact Logbook.Unmoved.refl b
  · exact Logbook.unmoved_emit b _

namespace Http

open Net (Network Sockets SocketAddress)
open Logbook (Unmoved)
open ListenerAct (after after_append)

/-- **What is asked for a listener.** -/
structure ListenerWish where
  kind : ListenerKind
  host : String
  port : UInt16

namespace ListenerWish

/-- What is asked for, at the address that the host has in a network. -/
def spec (n : Network) (w : ListenerWish) : Except ProvisionError ListenerSpec := do
  let a ← Provisioner.addressOf n w.host w.port
  return ⟨w.kind, a⟩

/-- What is asked for, if the host has an address. -/
def spec? (n : Network) (w : ListenerWish) : Option ListenerSpec :=
  (w.spec n).toOption

/-- Why the host has no address. -/
def trouble? (n : Network) (w : ListenerWish) : Option ProvisionError :=
  match n.resolve w.host w.port with
  | .error e => some (.resource s!"{w.host}:{w.port.toNat}" e)
  | .ok _ => none

/-- **A listener is as asked for**: of its kind, at the address of its host, and on its port, unless the machine
was to choose one. -/
def Granted (n : Network) (w : ListenerWish) (l : ListenerSpec) : Prop :=
  ∃ s, w.spec n = .ok s ∧ l.Fills s

variable {n : Network}

theorem spec_cases (n : Network) (w : ListenerWish) :
    (∃ e, w.trouble? n = some e ∧ w.spec n = .error e) ∨
      ∃ a, w.trouble? n = none ∧ w.spec n = .ok ⟨w.kind, a⟩ := by
  unfold trouble? spec Provisioner.addressOf
  cases n.resolve w.host w.port with
  | error e => exact Or.inl ⟨_, rfl, rfl⟩
  | ok a => exact Or.inr ⟨a, rfl, rfl⟩

/-- Everything is planned that is asked for, or the first host without an address is to blame. -/
theorem mapM_spec_cases (n : Network) (ws : List ListenerWish) :
    (∃ e, ws.findSome? (trouble? n) = some e ∧ ws.mapM (spec n) = .error e) ∨
      (ws.findSome? (trouble? n) = none ∧ ws.mapM (spec n) = .ok (ws.filterMap (spec? n)) ∧
        List.Forall₂ (fun w s => w.spec n = .ok s) ws (ws.filterMap (spec? n))) := by
  induction ws with
  | nil => exact Or.inr ⟨rfl, rfl, .nil⟩
  | cons w ws ih =>
    rw [List.mapM_cons, List.findSome?_cons]
    obtain ⟨e, htrouble, hspec⟩ | ⟨a, htrouble, hspec⟩ := w.spec_cases n
    · rw [htrouble, hspec]
      exact Or.inl ⟨e, rfl, rfl⟩
    · have hspec? : w.spec? n = some ⟨w.kind, a⟩ := congrArg Except.toOption hspec
      rw [htrouble, hspec, List.filterMap_cons_some hspec?]
      obtain ⟨e, hrest, hspecs⟩ | ⟨hrest, hspecs, hall⟩ := ih
      · rw [hrest, hspecs]
        exact Or.inl ⟨e, rfl, rfl⟩
      · rw [hrest, hspecs]
        exact Or.inr ⟨rfl, rfl, .cons hspec hall⟩

theorem kind_of_granted {w : ListenerWish} {l : ListenerSpec} (h : w.Granted n l) : l.kind = w.kind := by
  obtain ⟨s, hspec, hfills⟩ := h
  obtain ⟨e, -, herror⟩ | ⟨a, -, hok⟩ := w.spec_cases n
  · rw [herror] at hspec
    cases hspec
  · rw [hok] at hspec
    cases hspec
    exact hfills.1

/-- Listeners that have what was planned have what was asked for. -/
theorem forall₂_granted {ws : List ListenerWish} {specs ls : List ListenerSpec}
    (hspecs : List.Forall₂ (fun w s => w.spec n = .ok s) ws specs)
    (hfills : List.Forall₂ ListenerSpec.Fills ls specs) : List.Forall₂ (Granted n) ws ls := by
  induction hspecs generalizing ls with
  | nil =>
    cases hfills
    exact .nil
  | cons hspec _ ih =>
    cases hfills with
    | cons hfill hrest => exact .cons ⟨_, hspec, hfill⟩ (ih hrest)

/-- Each listener is there because it was asked for. -/
theorem exists_of_granted {ws : List ListenerWish} {ls : List ListenerSpec} (h : List.Forall₂ (Granted n) ws ls)
    {l : ListenerSpec} (hl : l ∈ ls) : ∃ w ∈ ws, w.Granted n l := by
  induction h with
  | nil => cases hl
  | cons hgranted _ ih =>
    rcases List.mem_cons.1 hl with rfl | hl
    · exact ⟨_, List.mem_cons_self, hgranted⟩
    · obtain ⟨w, hw, hgranted'⟩ := ih hl
      exact ⟨w, List.mem_cons_of_mem _ hw, hgranted'⟩

end ListenerWish

namespace Provisioner

/-- **The listeners that the settings ask for**, in the order of the plan. -/
def wishes (p : Provisioner) (port : UInt16) : List ListenerWish :=
  [⟨.http, p.settings.server.host, port⟩] ++
  (if p.settings.https.enabled then [⟨.https, p.settings.https.host, p.settings.https.port⟩] else []) ++
  (if p.settings.alternate.enabled then [⟨.alt, p.settings.alternate.host, p.settings.alternate.port⟩] else [])

/-- Why there is no context for the encrypted listener. -/
def tlsTrouble? (p : Provisioner) (l : Tls.Library) (d : Disk) : Option ProvisionError :=
  if p.settings.https.enabled then
    match TlsContext.ofFiles l d p.settings.https.certPath p.settings.https.keyPath with
    | .error e => some (.security e)
    | .ok _ => none
  else none

/-- Why there is no plan: the first host without an address. -/
def planTrouble? (p : Provisioner) (n : Network) (port : UInt16) : Option ProvisionError :=
  (p.wishes port).findSome? (ListenerWish.trouble? n)

/-- **Why a server cannot be started** on a machine: the context, then the first address, then the first that
cannot be bound. -/
def trouble? (p : Provisioner) (port : UInt16) (m : Machine) : Option ProvisionError :=
  p.tlsTrouble? m.tls m.disk <|> p.planTrouble? m.network port <|>
    bindTrouble? m.network m.sockets ((p.wishes port).filterMap (ListenerWish.spec? m.network))

/-- **The logbook before any listener is touched**: the context and the pipeline are reported, if it comes to
them. -/
def prepared (p : Provisioner) (port : UInt16) (b : Logbook) : Logbook :=
  match p.tlsTrouble? b.machine.tls b.machine.disk <|> p.planTrouble? b.machine.network port with
  | some _ => (p.enableTls b).2
  | none => (Pipeline.buildEvents p.settings p.mode).foldl Logbook.emit (p.enableTls b).2

variable {p : Provisioner} {port : UInt16} {specs : List ListenerSpec} {tls : Option TlsContext}

/-! ### The stages -/

/-- The context of the two files, if the encrypted listener is enabled. -/
theorem enableTls_of_enabled (henabled : p.settings.https.enabled = true) (b : Logbook) :
    p.enableTls b =
      (((TlsContext.load p.settings.https.certPath p.settings.https.keyPath b).1.map some).mapError .security,
        (TlsContext.load p.settings.https.certPath p.settings.https.keyPath b).2) := by
  unfold enableTls
  rw [if_pos henabled]
  obtain ⟨r, b'⟩ := TlsContext.load p.settings.https.certPath p.settings.https.keyPath b
  cases r <;> rfl

theorem enableTls_of_not_enabled (henabled : ¬ p.settings.https.enabled = true) (b : Logbook) :
    p.enableTls b = (.ok none, b) :=
  if_neg henabled

theorem unmoved_enableTls (p : Provisioner) (b : Logbook) : Unmoved b (p.enableTls b).2 := by
  by_cases henabled : p.settings.https.enabled = true
  · rw [enableTls_of_enabled henabled]
    exact TlsContext.unmoved_load _ _ b
  · rw [enableTls_of_not_enabled henabled]
    exact Unmoved.refl b

/-- The context fails with its trouble. If there is none, there is a context if the encrypted listener is
enabled. -/
theorem fst_enableTls (p : Provisioner) (b : Logbook) :
    match p.tlsTrouble? b.machine.tls b.machine.disk with
    | some e => (p.enableTls b).1 = .error e
    | none => ∃ tls, (p.enableTls b).1 = .ok tls ∧ (p.settings.https.enabled = true → tls.isSome = true) := by
  unfold tlsTrouble?
  by_cases henabled : p.settings.https.enabled = true
  · rw [if_pos henabled, enableTls_of_enabled henabled, TlsContext.fst_load]
    cases TlsContext.ofFiles b.machine.tls b.machine.disk p.settings.https.certPath p.settings.https.keyPath with
    | error e => rfl
    | ok c => exact ⟨some c, rfl, fun _ => rfl⟩
  · rw [if_neg henabled, enableTls_of_not_enabled henabled]
    exact ⟨none, rfl, fun h => absurd h henabled⟩

/-- The plan is made of what is asked for, one after another. -/
theorem plan_eq (p : Provisioner) (n : Network) (port : UInt16) :
    p.plan n port = (p.wishes port).mapM (ListenerWish.spec n) := by
  have hmap {α β : Type} (f : α → β) (x : Except ProvisionError α) : x.map f = x >>= fun a => pure (f a) := by
    cases x <;> rfl
  have hnone : (Except.ok none : Except ProvisionError (Option ListenerSpec)) = pure none := rfl
  unfold plan wishes encrypted alternate ListenerWish.spec
  cases p.settings.https.enabled <;> cases p.settings.alternate.enabled <;> simp [hmap, hnone]

/-- An encrypted listener is asked for only if it is enabled. -/
theorem enabled_of_wishes {w : ListenerWish} (hw : w ∈ p.wishes port) (hkind : w.kind = .https) :
    p.settings.https.enabled = true := by
  by_contra hoff
  unfold wishes at hw
  rw [if_neg hoff] at hw
  rcases List.mem_append.1 hw with hw | hw
  · rw [List.mem_singleton.1 hw] at hkind
    cases hkind
  · split at hw
    · rw [List.mem_singleton.1 hw] at hkind
      cases hkind
    · cases hw

/-! ### The start -/

/-- **Listeners are all bound and serve, or those that were bound are closed**, and none has served. -/
theorem serve_eq (pipeline : Pipeline) (b : Logbook)
    (htls : ∀ ls, List.Forall₂ ListenerSpec.Fills ls specs → ∀ l ∈ ls, l.kind = .https → tls.isSome = true) :
    ∃ ls : List ListenerSpec,
      match bindTrouble? b.machine.network b.machine.sockets specs with
      | some e => serve tls specs pipeline b = (.error e, after b (ls.map .bound ++ ls.map .closed))
      | none =>
        List.Forall₂ ListenerSpec.Fills ls specs ∧
          serve tls specs pipeline b =
            (.ok { listeners := ls, pipeline }, after b (ls.map .bound ++ ls.map .served)) := by
  obtain ⟨ls, hls⟩ := bindAll_eq specs [] b
  refine ⟨ls, ?_⟩
  unfold serve
  cases htrouble : bindTrouble? b.machine.network b.machine.sockets specs with
  | some e =>
    rw [htrouble] at hls
    rw [hls]
    rfl
  | none =>
    rw [htrouble] at hls
    obtain ⟨hfills, hbound⟩ := hls
    rw [List.nil_append] at hbound
    refine ⟨hfills, ?_⟩
    rw [hbound, after_append]
    simp only [serveAll_eq (htls ls hfills)]

/-- **A start in closed form.** -/
theorem startOn_eq (p : Provisioner) (port : UInt16) (site : Site) (b : Logbook) :
    ∃ ls : List ListenerSpec,
      match p.trouble? port b.machine with
      | some e => p.startOn port site b = (.error e, after (p.prepared port b) (ls.map .bound ++ ls.map .closed))
      | none =>
        List.Forall₂ (ListenerWish.Granted b.machine.network) (p.wishes port) ls ∧
          p.startOn port site b =
            (.ok { listeners := ls, pipeline := .ofSettings site p.settings p.mode },
              after (p.prepared port b) (ls.map .bound ++ ls.map .served)) := by
  have htls := p.fst_enableTls b
  have hsockets := (p.unmoved_enableTls b).sockets
  have hnetwork := (p.unmoved_enableTls b).network
  unfold startOn prepared trouble? planTrouble?
  generalize p.enableTls b = x at htls hsockets hnetwork
  obtain ⟨r, b₁⟩ := x
  cases htrouble : p.tlsTrouble? b.machine.tls b.machine.disk with
  | some e =>
    rw [htrouble] at htls
    obtain rfl : r = .error e := htls
    exact ⟨[], rfl⟩
  | none =>
    rw [htrouble] at htls
    obtain ⟨tls, hr, hcontext⟩ := htls
    obtain rfl : r = .ok tls := hr
    have hnetwork : b₁.machine.network = b.machine.network := hnetwork
    simp only [hnetwork, plan_eq]
    obtain ⟨e, hfind, hplan⟩ | ⟨hfind, hplan, hspecs⟩ :=
      ListenerWish.mapM_spec_cases b.machine.network (p.wishes port)
    · rw [hfind, hplan]
      exact ⟨[], rfl⟩
    · have hgranted (ls : List ListenerSpec)
          (hfills : List.Forall₂ ListenerSpec.Fills ls
            ((p.wishes port).filterMap (ListenerWish.spec? b.machine.network))) :
          List.Forall₂ (ListenerWish.Granted b.machine.network) (p.wishes port) ls :=
        ListenerWish.forall₂_granted hspecs hfills
      -- the settings that ask for an encrypted listener are those that load a context
      have htls : ∀ ls, List.Forall₂ ListenerSpec.Fills ls
          ((p.wishes port).filterMap (ListenerWish.spec? b.machine.network)) →
          ∀ l ∈ ls, l.kind = .https → tls.isSome = true := by
        intro ls hfills l hl hkind
        obtain ⟨w, hw, hgrant⟩ := ListenerWish.exists_of_granted (hgranted ls hfills) hl
        have hasked : w.kind = .https := (ListenerWish.kind_of_granted hgrant).symm.trans hkind
        exact hcontext (enabled_of_wishes hw hasked)
      obtain ⟨ls, hls⟩ := serve_eq (.ofSettings site p.settings p.mode)
        ((Pipeline.buildEvents p.settings p.mode).foldl Logbook.emit b₁) htls
      rw [(Logbook.unmoved_emits _ b₁).sockets, (Logbook.unmoved_emits _ b₁).network, hsockets, hnetwork] at hls
      refine ⟨ls, ?_⟩
      rw [hfind, hplan]
      cases hbind : bindTrouble? b.machine.network b.machine.sockets
          ((p.wishes port).filterMap (ListenerWish.spec? b.machine.network)) with
      | some e =>
        rw [hbind] at hls
        exact hls
      | none =>
        rw [hbind] at hls
        exact ⟨hgranted ls hls.1, hls.2⟩

/-! ### What cannot fail -/

theorem bindTrouble?_ne_configuration (what : String) (n : Network) (o : Sockets) (specs : List ListenerSpec) :
    bindTrouble? n o specs ≠ some (.configuration what) := by
  have hresource (address : String) (source : SystemError) :
      some (ProvisionError.resource address source) ≠ some (.configuration what) := by
    intro h
    cases h
  induction specs generalizing o with
  | nil =>
    intro h
    cases h
  | cons s specs ih =>
    unfold bindTrouble?
    split
    · exact hresource _ _
    · split
      · exact hresource _ _
      · exact ih _

/-- **No start fails for want of a context**: the stage that would report it is not reached without one. -/
theorem trouble?_ne_configuration (p : Provisioner) (port : UInt16) (m : Machine) (what : String) :
    p.trouble? port m ≠ some (.configuration what) := by
  have htls : p.tlsTrouble? m.tls m.disk ≠ some (.configuration what) := by
    intro hsome
    unfold tlsTrouble? at hsome
    split at hsome
    · split at hsome <;> cases hsome
    · cases hsome
  have hplan : p.planTrouble? m.network port ≠ some (.configuration what) := by
    intro hfind
    obtain ⟨w, -, hw⟩ := List.exists_of_findSome?_eq_some hfind
    unfold ListenerWish.trouble? at hw
    split at hw <;> cases hw
  have hbind := bindTrouble?_ne_configuration what m.network m.sockets
    ((p.wishes port).filterMap (ListenerWish.spec? m.network))
  unfold trouble?
  cases hfirst : p.tlsTrouble? m.tls m.disk with
  | some e =>
    rw [hfirst] at htls
    exact htls
  | none =>
    cases hsecond : p.planTrouble? m.network port with
    | some e =>
      rw [hsecond] at hplan
      exact hplan
    | none => exact hbind

/-- Nothing that is reported before takes an address, or starts or stops the registry. -/
theorem unmoved_prepared (p : Provisioner) (port : UInt16) (b : Logbook) : Unmoved b (p.prepared port b) := by
  have htls := p.unmoved_enableTls b
  unfold prepared
  split
  · exact htls
  · exact htls.trans (Logbook.unmoved_emits _ _)

/-- **A server that cannot be started leaves the same addresses in use as before**, and in no case is the registry
started or stopped. -/
theorem unmoved_startOn (p : Provisioner) (port : UInt16) (site : Site) (b : Logbook) :
    (p.startOn port site b).2.registry.state = b.registry.state ∧
      ∀ e, (p.startOn port site b).1 = .error e → Unmoved b (p.startOn port site b).2 := by
  have hprepared := p.unmoved_prepared port b
  obtain ⟨ls, hls⟩ := p.startOn_eq port site b
  cases htrouble : p.trouble? port b.machine with
  | some e =>
    rw [htrouble] at hls
    rw [hls]
    have hclosed : Unmoved (p.prepared port b) (after (p.prepared port b) (ls.map .bound ++ ls.map .closed)) :=
      ⟨ListenerAct.sameAround_after _ _, ListenerAct.sockets_after_bound_closed ls _⟩
    exact ⟨(hprepared.trans hclosed).state, fun _ _ => hprepared.trans hclosed⟩
  | none =>
    rw [htrouble] at hls
    rw [hls.2]
    exact ⟨(ListenerAct.sameAround_after _ _).state.trans hprepared.state, nofun⟩

/-- **All listeners or none.** Whatever the settings and the port, whatever names stand for in the network and
whichever addresses the system refuses, whatever the library makes of the key files, and whichever addresses are in
use: a start fails with the first trouble there is, of the context, then of the addresses in the order of the
plan, then of binding them in this order, and never because a context is missing. If it fails, what was bound by
then is closed, and no listener has served: the same addresses are in use as before. If it does not, the listeners
are those that the settings ask for, in this order. All of them are bound first, beside the addresses in use, and
then all of them serve. -/
theorem starts_all_or_none (p : Provisioner) (port : UInt16) (site : Site) (b : Logbook) :
    ∃ acts : List ListenerAct, (p.startOn port site b).2 = after (p.prepared port b) acts ∧
      match (p.startOn port site b).1 with
      | .error e =>
        p.trouble? port b.machine = some e ∧ (∀ what, e ≠ .configuration what) ∧
          (∃ ls : List ListenerSpec, acts = ls.map .bound ++ ls.map .closed) ∧
          (p.startOn port site b).2.machine.sockets = b.machine.sockets
      | .ok server =>
        p.trouble? port b.machine = none ∧
          List.Forall₂ (ListenerWish.Granted b.machine.network) (p.wishes port) server.listeners ∧
          acts = server.listeners.map .bound ++ server.listeners.map .served ∧
          (p.startOn port site b).2.machine.sockets =
            { bound := (server.listeners.map (·.address)).reverse ++ b.machine.sockets.bound } := by
  have hprepared := p.unmoved_prepared port b
  obtain ⟨ls, hls⟩ := p.startOn_eq port site b
  cases htrouble : p.trouble? port b.machine with
  | some e =>
    rw [htrouble] at hls
    rw [hls]
    have hclosed := ListenerAct.sockets_after_bound_closed ls (p.prepared port b)
    have hconfigured : ∀ what, e ≠ .configuration what := by
      rintro what rfl
      exact p.trouble?_ne_configuration port b.machine what htrouble
    exact ⟨_, rfl, rfl, hconfigured, ⟨ls, rfl⟩, hclosed.trans hprepared.sockets⟩
  | none =>
    rw [htrouble] at hls
    obtain ⟨hgranted, hstart⟩ := hls
    rw [hstart]
    refine ⟨_, rfl, rfl, hgranted, rfl, ?_⟩
    rw [after_append, ListenerAct.sockets_after_served, ListenerAct.sockets_after_bound, hprepared.sockets]

end Provisioner

end Http

end ModuleHost
