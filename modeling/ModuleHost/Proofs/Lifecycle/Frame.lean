import Mathlib
import ModuleHost.Lifecycle.Host
import ModuleHost.Proofs.Registry.Claims

/-!
# What a host leaves alone

Reports, claims and events change what is logged and who owns which category. They neither start nor stop the
registry, bind no address, and leave the bus and the modules as they are.

* `Logbook.SameAround`: the registry is in the state that it was in, and what is around the machine is the same.
* `Logbook.Unmoved`: and the same addresses are in use.
* `Logbook.Kept`: and the machine is the same up to records, as after a claim, a release or an event.
* `Host.acts`: what a host did with its modules and on its bus.
* `Host.Moved`: a host that did some more of that, and is otherwise where it was.
* `Host.moved_dispatch`: **an event is one act**, whoever listens and whatever they do about it.
-/

namespace ModuleHost

/-! ### Logbooks -/

/-- **A logbook in the same surroundings**: its registry was neither started nor stopped, and the network and the
library that reads key files are the ones that they were. -/
structure Logbook.SameAround (b b' : Logbook) : Prop where
  state : b'.registry.state = b.registry.state
  network : b'.machine.network = b.machine.network
  tls : b'.machine.tls = b.machine.tls

/-- **A logbook that went on**: and no address was taken or given back. -/
structure Logbook.Unmoved (b b' : Logbook) : Prop extends SameAround b b' where
  sockets : b'.machine.sockets = b.machine.sockets

/-- **A logbook that only kept records and claims**: its registry was neither started nor stopped, and its machine
is the same up to records. -/
structure Logbook.Kept (b b' : Logbook) : Prop where
  state : b'.registry.state = b.registry.state
  machine : b.machine.Recorded b'.machine

namespace Logbook

variable {b b' b'' : Logbook}

theorem SameAround.refl (b : Logbook) : SameAround b b := ⟨rfl, rfl, rfl⟩

theorem SameAround.trans (h : SameAround b b') (h' : SameAround b' b'') : SameAround b b'' :=
  ⟨h'.state.trans h.state, h'.network.trans h.network, h'.tls.trans h.tls⟩

theorem Unmoved.refl (b : Logbook) : Unmoved b b := ⟨SameAround.refl b, rfl⟩

theorem Unmoved.trans (h : Unmoved b b') (h' : Unmoved b' b'') : Unmoved b b'' :=
  ⟨h.toSameAround.trans h'.toSameAround, h'.sockets.trans h.sockets⟩

theorem Kept.refl (b : Logbook) : Kept b b := ⟨rfl, .refl _⟩

theorem Kept.trans (h : Kept b b') (h' : Kept b' b'') : Kept b b'' :=
  ⟨h'.state.trans h.state, h.machine.trans h'.machine⟩

theorem Kept.unmoved (h : Kept b b') : Unmoved b b' :=
  ⟨⟨h.state, h.machine.network, h.machine.tls⟩, h.machine.sockets⟩

theorem kept_emit (b : Logbook) (e : LogEvent) : Kept b (b.emit e) :=
  ⟨(emit_untouched b e).state, recorded_emit b e⟩

theorem kept_claim (b : Logbook) (c : Claim) : Kept b (b.claim c).2 := by
  have hwarn : Kept b (b.warnOfRoot c) := by
    unfold warnOfRoot
    split
    · exact kept_emit _ _
    · exact Kept.refl _
  refine hwarn.trans ?_
  show Kept (b.warnOfRoot c) ((b.warnOfRoot c).grant c).2
  unfold grant
  split
  · exact Kept.refl _
  · rename_i r hr
    have hstate : r.state = (b.warnOfRoot c).registry.state := by rw [(Registry.claim_ok hr).2]
    have hgranted : Kept (b.warnOfRoot c) { b.warnOfRoot c with registry := r } := ⟨hstate, .refl _⟩
    exact hgranted.trans (kept_emit _ _)

theorem kept_release (b : Logbook) (owner : String) : Kept b (b.release owner).2 := by
  unfold release
  split
  · exact Kept.refl _
  · rename_i r hr
    split
    · exact Kept.refl _
    · have hstate : r.state = b.registry.state := by
        obtain ⟨-, ⟨-, rfl⟩ | ⟨c, -, rfl⟩⟩ := Registry.release_ok hr
        · rfl
        · rfl
      have hreleased : Kept b { b with registry := r } := ⟨hstate, .refl _⟩
      exact hreleased.trans (kept_emit _ _)

theorem kept_hear (b : Logbook) (e : HostEvent) : Kept b (b.hear e) := by
  cases e with
  | moduleStopped id =>
    have hrelease := kept_release b id
    unfold hear
    simp only
    split
    · rename_i heq
      rw [heq] at hrelease
      exact hrelease
    · rename_i heq
      rw [heq] at hrelease
      exact hrelease.trans (kept_emit _ _)
  | _ => exact Kept.refl _

theorem unmoved_emit (b : Logbook) (e : LogEvent) : Unmoved b (b.emit e) :=
  (kept_emit b e).unmoved

theorem unmoved_emits (es : List LogEvent) : ∀ b : Logbook, Unmoved b (es.foldl emit b) := by
  induction es with
  | nil => exact Unmoved.refl
  | cons e es ih => exact fun b => (unmoved_emit b e).trans (ih _)

end Logbook

/-! ### Hosts -/

/-- Whether a deed concerns the modules or the bus. -/
def Deed.isAct : Deed → Bool
  | .noted _ => false
  | .ran _ => false
  | _ => true

namespace Host

/-- **What a host did with its modules and on its bus**, in this order. -/
def acts (h : Host) : List Deed :=
  (h.history.filter Deed.isAct).reverse

/-- **A host that did something** with its modules and on its bus, and is otherwise where it was. -/
structure Moved (h h' : Host) (ds : List Deed) : Prop where
  acts : h'.acts = h.acts ++ ds
  bus : h'.bus = h.bus
  book : Logbook.Unmoved h.book h'.book

variable {h h' h'' : Host} {ds ds' : List Deed} {d : Deed}

theorem Moved.refl (h : Host) : Moved h h [] :=
  ⟨(List.append_nil _).symm, rfl, Logbook.Unmoved.refl _⟩

theorem Moved.trans (h₁ : Moved h h' ds) (h₂ : Moved h' h'' ds') : Moved h h'' (ds ++ ds') :=
  ⟨by rw [h₂.acts, h₁.acts, List.append_assoc], h₂.bus.trans h₁.bus, h₁.book.trans h₂.book⟩

/-- Going on without doing anything with the modules or on the bus. -/
theorem Moved.idle (h₁ : Moved h h' ds) (h₂ : Moved h' h'' []) : Moved h h'' ds := by
  have hboth := h₁.trans h₂
  rwa [List.append_nil] at hboth

theorem Moved.active (hm : Moved h h' ds) (ha : h.book.registry.state = .active) :
    h'.book.registry.state = .active :=
  hm.book.state.trans ha

theorem acts_record_of_isAct (h : Host) (hd : d.isAct = true) : (h.record d).acts = h.acts ++ [d] := by
  unfold acts record
  rw [List.filter_cons_of_pos hd, List.reverse_cons]

theorem acts_record_of_not_isAct (h : Host) (hd : d.isAct = false) : (h.record d).acts = h.acts := by
  unfold acts record
  rw [List.filter_cons_of_neg (by simp [hd])]

theorem moved_record (h : Host) (hd : d.isAct = true) : Moved h (h.record d) [d] :=
  ⟨acts_record_of_isAct h hd, rfl, Logbook.Unmoved.refl _⟩

theorem moved_record_nil (h : Host) (hd : d.isAct = false) : Moved h (h.record d) [] :=
  ⟨by rw [acts_record_of_not_isAct h hd, List.append_nil], rfl, Logbook.Unmoved.refl _⟩

theorem moved_book (h : Host) {b : Logbook} (hb : Logbook.Unmoved h.book b) : Moved h { h with book := b } [] :=
  ⟨(List.append_nil _).symm, rfl, hb⟩

theorem moved_report (h : Host) (e : LogEvent) : Moved h (h.report e) [] :=
  moved_book h (Logbook.unmoved_emit _ e)

theorem moved_hear (h : Host) (e : HostEvent) (l : HostListener) : Moved h (h.hear e l) [] := by
  cases l with
  | registry => exact moved_book h (Logbook.kept_hear _ e).unmoved
  | diary => exact moved_record_nil h rfl

theorem moved_hearAll (e : HostEvent) (ls : List HostListener) :
    ∀ h : Host, Moved h (ls.foldl (fun h l => h.hear e l) h) [] := by
  induction ls with
  | nil => exact Moved.refl
  | cons l ls ih => exact fun h => (moved_hear h e l).trans (ih _)

/-- **An event is one act**, whoever listens. -/
theorem moved_dispatch (h : Host) (e : HostEvent) :
    Moved h (h.dispatch e) [.dispatched e h.book.registry.state] := by
  have hsaid := moved_report h (h.bus.notice e)
  have hdeed := moved_record (h.report (h.bus.notice e)) (d := .dispatched e h.book.registry.state) rfl
  exact (hsaid.trans hdeed).idle (moved_hearAll e h.bus.audience _)

/-! ### Modules -/

theorem framework_hear (h : Host) (e : HostEvent) (l : HostListener) : (h.hear e l).framework = h.framework := by
  cases l <;> rfl

@[simp] theorem framework_dispatch (h : Host) (e : HostEvent) : (h.dispatch e).framework = h.framework := by
  have hall (ls : List HostListener) :
      ∀ h : Host, (ls.foldl (fun h l => h.hear e l) h).framework = h.framework := by
    induction ls with
    | nil => exact fun _ => rfl
    | cons l ls ih => exact fun h => (ih _).trans (framework_hear h e l)
  exact hall _ _

end Host

end ModuleHost
