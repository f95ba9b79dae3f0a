import Mathlib
import ModuleHost.Http.Server
import ModuleHost.Proofs.Lifecycle.Frame

/-!
# Binding listeners

* `Net.Sockets.releaseAll_bound`: addresses are given back in any order.
* `Http.ListenerAct`: what happens to a listener, and `Http.ListenerAct.after` what a logbook has of it.
* `Http.Provisioner.bindAll_eq`: **all listeners are bound, or those that were bound before one that cannot be are
  closed again**.
* `Http.Provisioner.serveAll_eq`: an encrypted listener that has a context serves, like any other.
* `Http.Provisioner.resolvePort_congr`: the port hangs on the network and the addresses in use alone.
-/

namespace ModuleHost

open Net (Network Sockets SocketAddress)

/-- **Addresses that were bound last are given back**, in any order. -/
theorem Net.Sockets.releaseAll_bound {front as : List SocketAddress} (hp : front.Perm as)
    (rest : List SocketAddress) :
    Sockets.releaseAll { bound := front ++ rest } as = { bound := rest } := by
  induction as generalizing front with
  | nil => rw [hp.eq_nil]; rfl
  | cons a as ih =>
    have hmem : a ∈ front := hp.mem_iff.2 List.mem_cons_self
    have hrest : (front.erase a).Perm as := by simpa using hp.erase a
    have hone : Sockets.release { bound := front ++ rest } a = { bound := front.erase a ++ rest } := by
      unfold Sockets.release
      rw [List.erase_append_left _ hmem]
    show Sockets.releaseAll (Sockets.release { bound := front ++ rest } a) as = _
    rw [hone]
    exact ih hrest

namespace Logbook

theorem unmoved_resolvePort (b : Logbook) (configured : UInt16) (override? : Option UInt16) :
    Unmoved b (b.resolvePort configured override?).2 := by
  cases override? <;> exact unmoved_emit b _

theorem unmoved_preflight (b : Logbook) (a : SocketAddress) : Unmoved b (b.preflight a).2 := by
  unfold preflight
  split <;> exact unmoved_emit b _

theorem preflight_congr {b b' : Logbook} (hsockets : b'.machine.sockets = b.machine.sockets)
    (hnetwork : b'.machine.network = b.machine.network) (a : SocketAddress) :
    (b'.preflight a).1 = (b.preflight a).1 := by
  unfold preflight
  rw [hsockets, hnetwork]
  cases b.machine.sockets.check b.machine.network a <;> rfl

theorem fst_resolvePort (b b' : Logbook) (configured : UInt16) (override? : Option UInt16) :
    (b'.resolvePort configured override?).1 = (b.resolvePort configured override?).1 := by
  cases override? <;> rfl

end Logbook

namespace Http

/-- **What happens to a listener** while a server is started. -/
inductive ListenerAct where
  | bound (s : ListenerSpec)
  | served (s : ListenerSpec)
  | closed (s : ListenerSpec)

/-- A listener has what was asked for: the kind, the address, and the port, unless the machine was to choose
one. -/
def ListenerSpec.Fills (l s : ListenerSpec) : Prop :=
  l.kind = s.kind ∧ l.address.ip = s.address.ip ∧ (s.address.port ≠ 0 → l.address = s.address)

theorem ListenerSpec.fills_assign (o : Sockets) (s : ListenerSpec) :
    ListenerSpec.Fills ⟨s.kind, o.assign s.address⟩ s := by
  unfold ListenerSpec.Fills Sockets.assign
  by_cases hport : s.address.port = 0
  · simp [hport]
  · simp [hport]

namespace ListenerAct

/-- A logbook after an act. -/
def on (b : Logbook) : ListenerAct → Logbook
  | bound s =>
    { b with machine := { b.machine with sockets := { bound := s.address :: b.machine.sockets.bound } } }.emit
      ⟨.info, Logbook.listenerTarget, "Listener bound", [Logbook.onAddress s.address]⟩
  | served s =>
    b.emit ⟨.info, serverTarget, "Listening for connections",
      [("listener", .shown s.kind.name), Logbook.onAddress s.address]⟩
  | closed s => b.closeListeners [s.address]

/-- **A logbook after acts**, one after another. -/
def after (b : Logbook) (acts : List ListenerAct) : Logbook :=
  acts.foldl on b

theorem after_append (b : Logbook) (acts acts' : List ListenerAct) :
    after b (acts ++ acts') = after (after b acts) acts' :=
  List.foldl_append

theorem sameAround_on (b : Logbook) (act : ListenerAct) : Logbook.SameAround b (act.on b) := by
  cases act with
  | bound s =>
    have hbound : Logbook.SameAround b
        { b with machine := { b.machine with sockets := { bound := s.address :: b.machine.sockets.bound } } } :=
      ⟨rfl, rfl, rfl⟩
    exact hbound.trans (Logbook.unmoved_emit _ _).toSameAround
  | served s => exact (Logbook.unmoved_emit _ _).toSameAround
  | closed s => exact ⟨rfl, rfl, rfl⟩

/-- No act changes anything but the addresses in use. -/
theorem sameAround_after (acts : List ListenerAct) (b : Logbook) : Logbook.SameAround b (after b acts) := by
  induction acts generalizing b with
  | nil => exact .refl b
  | cons act acts ih => exact (sameAround_on b act).trans (ih (act.on b))

/-- Listeners that are bound take their addresses, each in front of those in use. -/
theorem sockets_after_bound (ls : List ListenerSpec) (b : Logbook) :
    (after b (ls.map .bound)).machine.sockets =
      { bound := (ls.map (·.address)).reverse ++ b.machine.sockets.bound } := by
  induction ls generalizing b with
  | nil => rfl
  | cons l ls ih =>
    have hone : ((bound l).on b).machine.sockets = { bound := l.address :: b.machine.sockets.bound } :=
      (Logbook.unmoved_emit _ _).sockets
    show (after ((bound l).on b) (ls.map .bound)).machine.sockets = _
    rw [ih, hone]
    simp

/-- Listeners that serve take no address. -/
theorem sockets_after_served (ls : List ListenerSpec) (b : Logbook) :
    (after b (ls.map .served)).machine.sockets = b.machine.sockets := by
  induction ls generalizing b with
  | nil => rfl
  | cons l ls ih => exact (ih ((served l).on b)).trans (Logbook.unmoved_emit _ _).sockets

/-- Listeners are closed one after another. -/
theorem after_closed (ls : List ListenerSpec) (b : Logbook) :
    after b (ls.map .closed) = b.closeListeners (ls.map (·.address)) := by
  induction ls generalizing b with
  | nil => rfl
  | cons l ls ih => exact ih ((closed l).on b)

/-- **Listeners that are bound and closed** leave the addresses in use as they were. -/
theorem sockets_after_bound_closed (ls : List ListenerSpec) (b : Logbook) :
    (after b (ls.map .bound ++ ls.map .closed)).machine.sockets = b.machine.sockets := by
  rw [after_append, after_closed]
  show (after b (ls.map .bound)).machine.sockets.releaseAll (ls.map (·.address)) = _
  rw [sockets_after_bound]
  exact Sockets.releaseAll_bound (List.reverse_perm _) b.machine.sockets.bound

end ListenerAct

end Http

/-- An address that can be bound is bound, with a report. -/
theorem Logbook.bindListener_eq (b : Logbook) (s : Http.ListenerSpec) :
    b.bindListener s.address =
      match b.machine.sockets.check b.machine.network s.address with
      | .error e => (.error e, b)
      | .ok a => (.ok a, Http.ListenerAct.on b (.bound ⟨s.kind, a⟩)) := by
  unfold Logbook.bindListener Sockets.bind
  cases b.machine.sockets.check b.machine.network s.address <;> rfl

namespace Http.Provisioner

open Logbook (Unmoved)
open ListenerAct (after after_append after_closed)

variable {p : Provisioner} {specs : List ListenerSpec} {b b' : Logbook} {tls : Option TlsContext}

/-! ### The port -/

theorem unmoved_resolvePort (p : Provisioner) (b : Logbook) : Unmoved b (p.resolvePort b).2 := by
  have hport := b.unmoved_resolvePort p.settings.server.port p.port
  unfold resolvePort
  split
  rename_i port b₁ heq
  rw [heq] at hport
  split
  · split
    · exact hport
    · rename_i a _
      have htried := b₁.unmoved_preflight a
      split
      · rename_i heq
        rw [heq] at htried
        exact hport.trans htried
      · rename_i heq
        rw [heq] at htried
        exact hport.trans htried
  · exact hport

/-- **The port hangs on the network and the addresses in use alone**, and whether it can be had. -/
theorem resolvePort_congr (hsockets : b'.machine.sockets = b.machine.sockets)
    (hnetwork : b'.machine.network = b.machine.network) : (p.resolvePort b').1 = (p.resolvePort b).1 := by
  have hport := Logbook.fst_resolvePort b b' p.settings.server.port p.port
  have hafter := b.unmoved_resolvePort p.settings.server.port p.port
  have hafter' := b'.unmoved_resolvePort p.settings.server.port p.port
  have hsockets := (hafter'.sockets.trans hsockets).trans hafter.sockets.symm
  have hnetwork := (hafter'.network.trans hnetwork).trans hafter.network.symm
  unfold resolvePort
  generalize b.resolvePort p.settings.server.port p.port = x at hport hsockets hnetwork
  generalize b'.resolvePort p.settings.server.port p.port = x' at hport hsockets hnetwork
  obtain ⟨port, b₁⟩ := x
  obtain ⟨port', b₁'⟩ := x'
  obtain rfl : port' = port := hport
  by_cases hcheck : p.settings.server.checkPort = true
  · have hnetwork : b₁'.machine.network = b₁.machine.network := hnetwork
    simp only [hcheck, if_true, hnetwork]
    cases addressOf b₁.machine.network p.settings.server.host port' with
    | error e => rfl
    | ok a =>
      have htried := Logbook.preflight_congr hsockets hnetwork a
      simp only
      generalize b₁.preflight a = y at htried
      generalize b₁'.preflight a = y' at htried
      obtain ⟨r, b₂⟩ := y
      obtain ⟨r', b₂'⟩ := y'
      obtain rfl : r' = r := htried
      cases r' <;> rfl
  · simp only [hcheck]
    rfl

/-! ### Binding and serving -/

/-- **Why listeners cannot be bound** beside addresses in use, one after another: the first whose address the
system refuses, or is in use, perhaps by one of those before. -/
def bindTrouble? (n : Network) : Sockets → List ListenerSpec → Option ProvisionError
  | _, [] => none
  | o, s :: specs =>
    match n.refusal? s.address with
    | some e => some (.resource s.address.text e)
    | none =>
      if o.inUse s.address then some (.resource s.address.text .addressInUse)
      else bindTrouble? n { bound := o.assign s.address :: o.bound } specs

/-- Two listeners of one start are in each other's way, if a wildcard stands for the address of the other. -/
example :
    bindTrouble? .offline {} [⟨.http, ⟨.v4 127 0 0 1, 8080⟩⟩, ⟨.alt, ⟨.v4 0 0 0 0, 8080⟩⟩] =
      some (.resource "0.0.0.0:8080" .addressInUse) := by
  decide +kernel

/-- **All listeners are bound**, beside those that are, or those that were bound before one that cannot be are
closed again with them. -/
theorem bindAll_eq (specs bound : List ListenerSpec) (b : Logbook) :
    ∃ ls : List ListenerSpec,
      match bindTrouble? b.machine.network b.machine.sockets specs with
      | some e =>
        bindAll specs bound b = (.error e, after b (ls.map .bound ++ (bound ++ ls).map .closed))
      | none =>
        List.Forall₂ ListenerSpec.Fills ls specs ∧
          bindAll specs bound b = (.ok (bound ++ ls), after b (ls.map .bound)) := by
  induction specs generalizing bound b with
  | nil =>
    refine ⟨[], .nil, ?_⟩
    rw [List.append_nil]
    rfl
  | cons s specs ih =>
    unfold bindTrouble? bindAll
    rw [Logbook.bindListener_eq b s]
    unfold Sockets.check
    cases hrefused : b.machine.network.refusal? s.address with
    | some e =>
      -- nothing was bound but what was there before
      refine ⟨[], ?_⟩
      simp only [List.map_nil, List.nil_append, List.append_nil, after_closed]
    | none =>
      by_cases huse : b.machine.sockets.inUse s.address = true
      · refine ⟨[], ?_⟩
        simp only [huse, if_true, List.map_nil, List.nil_append, List.append_nil, after_closed]
      · -- it is bound, and the others beside it
        have hfills := ListenerSpec.fills_assign b.machine.sockets s
        simp only [huse, Bool.false_eq_true, if_false]
        generalize b.machine.sockets.assign s.address = a at hfills ⊢
        have hsockets : (ListenerAct.on b (.bound ⟨s.kind, a⟩)).machine.sockets =
            { bound := a :: b.machine.sockets.bound } :=
          ListenerAct.sockets_after_bound [⟨s.kind, a⟩] b
        have hnetwork := (ListenerAct.sameAround_on b (.bound ⟨s.kind, a⟩)).network
        obtain ⟨ls, hls⟩ := ih (bound ++ [⟨s.kind, a⟩]) (ListenerAct.on b (.bound ⟨s.kind, a⟩))
        rw [hsockets, hnetwork, List.append_assoc] at hls
        refine ⟨⟨s.kind, a⟩ :: ls, ?_⟩
        cases htrouble : bindTrouble? b.machine.network { bound := a :: b.machine.sockets.bound } specs with
        | some e =>
          rw [htrouble] at hls
          exact hls
        | none =>
          rw [htrouble] at hls
          exact ⟨.cons hfills hls.1, hls.2⟩

/-- **Bound listeners serve**, if the encrypted ones have a context. -/
theorem serveAll_eq (htls : ∀ s ∈ specs, s.kind = .https → tls.isSome = true) :
    serveAll tls specs b = (.ok (), after b (specs.map .served)) := by
  induction specs generalizing b with
  | nil => rfl
  | cons s specs ih =>
    have hserves : (s.kind == .https && tls.isNone) = false := by
      by_cases hkind : s.kind = .https
      · have hsome := htls s List.mem_cons_self hkind
        simp [Option.isNone_eq_false_iff.2 hsome]
      · simp [hkind]
    unfold serveAll
    rw [hserves]
    exact ih fun t ht => htls t (List.mem_cons_of_mem _ ht)

end Http.Provisioner

end ModuleHost
