import Mathlib
import ModuleHost.Lifecycle.Bus

/-!
# The minutes of a bus

What is done on a bus, act by act, and what can be read off such minutes without the bus itself.

* `BusAct`: one act. `standing`: who is subscribed after some acts.
* `Fits`, `Faithful`: **an act says what is so** after those before it. A dispatch calls whoever was subscribed
  when it began, and all of them before it ends.
* `Booked`, `Answered.booked`: while the numbers last, each is given out once and let go at most once, and who is
  subscribed is who was taken in and not let go, in the order of the subscriptions.
-/

namespace ModuleHost

/-- **What is done on a bus.** A dispatch is known by how many began before it. -/
inductive BusAct (α : Type) where
  | subscribed (id : Nat) (a : α)
  | unsubscribed (id : Nat) (found : Bool)
  | begun (e : HostEvent)
  /-- A dispatch calls a listener. -/
  | called (dispatch : Nat) (e : HostEvent) (a : α)
  | ended (dispatch : Nat)

namespace BusAct

variable {α : Type}

/-! ### Reading minutes -/

def isBegun : BusAct α → Bool
  | begun _ => true
  | _ => false

/-- How many dispatches began. -/
def begins (xs : List (BusAct α)) : Nat :=
  xs.countP isBegun

def call? (n : Nat) : BusAct α → Option (HostEvent × α)
  | called m e a => if m = n then some (e, a) else none
  | _ => none

/-- **Whom a dispatch called**, and what it told them. -/
def callsBy (n : Nat) (xs : List (BusAct α)) : List (HostEvent × α) :=
  xs.filterMap (call? n)

def taken? : BusAct α → Option (Nat × α)
  | subscribed id a => some (id, a)
  | _ => none

/-- **Who was taken in**, with the numbers given out. -/
def taken (xs : List (BusAct α)) : List (Nat × α) :=
  xs.filterMap taken?

def released? : BusAct α → Option Nat
  | unsubscribed id true => some id
  | _ => none

/-- **The numbers that were let go.** -/
def released (xs : List (BusAct α)) : List Nat :=
  xs.filterMap released?

/-- Who is subscribed after one more act. -/
def enter (ls : List (Nat × α)) : BusAct α → List (Nat × α)
  | subscribed id a => ls ++ [(id, a)]
  | unsubscribed id _ => ls.filter (·.1 != id)
  | _ => ls

/-- **Who is subscribed** after some acts, in order. -/
def standing (xs : List (BusAct α)) : List (Nat × α) :=
  xs.foldl enter []

variable {earlier before after xs ys : List (BusAct α)} {x : BusAct α} {n id : Nat} {e : HostEvent} {a : α}
  {found : Bool}

@[simp] theorem begins_append : begins (xs ++ ys) = begins xs + begins ys :=
  List.countP_append

@[simp] theorem begins_cons : begins (x :: xs) = begins xs + (isBegun x).toNat := by
  cases h : isBegun x <;> simp [begins, h]

@[simp] theorem callsBy_append : callsBy n (xs ++ ys) = callsBy n xs ++ callsBy n ys :=
  List.filterMap_append

@[simp] theorem taken_append : taken (xs ++ ys) = taken xs ++ taken ys :=
  List.filterMap_append

@[simp] theorem released_append : released (xs ++ ys) = released xs ++ released ys :=
  List.filterMap_append

@[simp] theorem standing_concat : standing (xs ++ [x]) = enter (standing xs) x := by
  simp [standing]

theorem mem_callsBy_iff {c : HostEvent × α} : c ∈ callsBy n xs ↔ called n c.1 c.2 ∈ xs := by
  unfold callsBy
  rw [List.mem_filterMap]
  constructor
  · rintro ⟨x, hx, hcall⟩
    cases x with
    | called m e a =>
      obtain ⟨rfl, rfl⟩ : m = n ∧ (e, a) = c := by simpa [call?] using hcall
      exact hx
    | _ => cases hcall
  · intro hc
    exact ⟨_, hc, if_pos rfl⟩

/-! ### Minutes that say what is so -/

/-- **An act says what is so**, after those before it and with those that follow it. -/
def Fits (before : List (BusAct α)) : BusAct α → List (BusAct α) → Prop
  | subscribed id _, _ => id = (taken before).length % EventBus.idCount
  | unsubscribed id found, _ => found = true ↔ ∃ a, (id, a) ∈ standing before
  | begun e, after => ∃ during rest, after = during ++ ended (begins before) :: rest ∧
      callsBy (begins before) during = (standing before).map (fun l => (e, l.2)) ∧
        callsBy (begins before) rest = []
  | called n _ _, _ => n < begins before
  | ended n, _ => n < begins before

/-- **Every act says what is so**, where others were written before. -/
def Faithful (earlier xs : List (BusAct α)) : Prop :=
  ∀ before x after, xs = before ++ x :: after → x.Fits (earlier ++ before) after

/-- **What is written of a piece of work**: every act fits, and no dispatch calls anybody that began earlier. -/
structure Told (earlier xs : List (BusAct α)) : Prop where
  faithful : Faithful earlier xs
  others : ∀ n < begins earlier, callsBy n xs = []

/-- An act still fits when more is written, if that holds no more calls of the dispatch that it begins. -/
theorem Fits.extend (h : x.Fits before after) (hquiet : callsBy (begins before) ys = []) :
    x.Fits before (after ++ ys) := by
  cases x with
  | begun e =>
    obtain ⟨during, rest, rfl, hduring, hrest⟩ := h
    refine ⟨during, rest ++ ys, by simp, hduring, ?_⟩
    rw [callsBy_append, hrest, hquiet, List.nil_append]
  | _ => exact h

theorem faithful_nil : Faithful earlier ([] : List (BusAct α)) := by
  intro before x after h
  simp at h

theorem faithful_singleton (h : x.Fits earlier []) : Faithful earlier [x] := by
  intro before y after heq
  obtain ⟨rfl, rfl, rfl⟩ : before = [] ∧ y = x ∧ after = [] := by
    cases before with
    | nil =>
      obtain ⟨rfl, rfl⟩ := List.cons.inj heq
      exact ⟨rfl, rfl, rfl⟩
    | cons z before => simp at heq
  rwa [List.append_nil]

/-- Minutes go on. What follows may call nobody for a dispatch that began in the first part: it has ended
there. -/
theorem Faithful.append (hxs : Faithful earlier xs) (hys : Faithful (earlier ++ xs) ys)
    (hquiet : ∀ n, begins earlier ≤ n → n < begins (earlier ++ xs) → callsBy n ys = []) :
    Faithful earlier (xs ++ ys) := by
  intro before x after heq
  rcases List.append_eq_append_iff.1 heq with ⟨late, rfl, hlate⟩ | ⟨tail, hxs', htail⟩
  · rw [← List.append_assoc]
    exact hys late x after hlate
  · cases tail with
    | nil =>
      have hhere := hys [] x after htail.symm
      rw [hxs', List.append_nil, List.append_nil] at hhere
      exact hhere
    | cons y tail =>
      obtain ⟨rfl, rfl⟩ := List.cons.inj htail
      have hfits : x.Fits (earlier ++ before) tail := hxs before x tail hxs'
      cases x with
      | begun e =>
        refine hfits.extend (hquiet _ ?_ ?_)
        · rw [begins_append]
          exact Nat.le_add_right _ _
        · rw [hxs']
          simp [isBegun]
      | _ => exact hfits

theorem told_nil : Told earlier ([] : List (BusAct α)) :=
  ⟨faithful_nil, fun _ _ => rfl⟩

theorem Told.append (hxs : Told earlier xs) (hys : Told (earlier ++ xs) ys) : Told earlier (xs ++ ys) where
  faithful := hxs.faithful.append hys.faithful fun n _ => hys.others n
  others n hn := by
    have hlater : n < begins (earlier ++ xs) := by
      rw [begins_append]
      omega
    rw [callsBy_append, hxs.others n hn, hys.others n hlater, List.append_nil]

/-- **A dispatch is written of** as a beginning, the calls with all that came of them, and an end. -/
theorem told_dispatch (hxs : Faithful (earlier ++ [begun e]) xs)
    (hcalls : callsBy (begins earlier) xs = (standing earlier).map (fun l => (e, l.2)))
    (hothers : ∀ n < begins earlier, callsBy n xs = []) :
    Told earlier (begun e :: (xs ++ [ended (begins earlier)])) := by
  refine ⟨?_, fun n hn => ?_⟩
  · intro before x after heq
    cases before with
    | nil =>
      obtain ⟨rfl, rfl⟩ := List.cons.inj heq
      rw [List.append_nil]
      exact ⟨xs, [], rfl, hcalls, rfl⟩
    | cons y before =>
      obtain ⟨rfl, hrest⟩ := List.cons.inj heq
      have hended : Faithful (earlier ++ [begun e] ++ xs) [ended (begins earlier)] := by
        refine faithful_singleton ?_
        show begins earlier < begins (earlier ++ [begun e] ++ xs)
        simp [begins, isBegun]
      have hall := hxs.append hended fun n _ _ => rfl
      have hhere := hall before x after hrest
      rwa [List.append_assoc, List.singleton_append] at hhere
  · rw [← List.singleton_append, callsBy_append, callsBy_append, hothers n hn]
    rfl

/-! ### Numbers -/

/-- **The calls are answered as they should be**: the next number for who is taken in, and whether there was
somebody for who is let go. -/
structure Answered (xs : List (BusAct α)) : Prop where
  number : ∀ before id a after, xs = before ++ subscribed id a :: after →
    id = (taken before).length % EventBus.idCount
  found : ∀ before id found after, xs = before ++ unsubscribed id found :: after →
    (found = true ↔ ∃ a, (id, a) ∈ standing before)

theorem Faithful.answered (h : Faithful [] xs) : Answered xs where
  number before id a after heq := h before (subscribed id a) after heq
  found before id found after heq := h before (unsubscribed id found) after heq

theorem Answered.of_append (h : Answered (xs ++ ys)) : Answered xs where
  number before id a after heq := h.number before id a (after ++ ys) (by rw [heq]; simp)
  found before id found after heq := h.found before id found (after ++ ys) (by rw [heq]; simp)

/-- **Each number is given out once and let go at most once**, and who is subscribed was taken in and not let
go. -/
structure Booked (xs : List (BusAct α)) : Prop where
  numbers : (taken xs).map (·.1) = List.range (taken xs).length
  known : ∀ id ∈ released xs, id < (taken xs).length
  once : (released xs).Nodup
  present : standing xs = (taken xs).filter (fun l => l.1 ∉ released xs)

theorem Booked.mem_taken_iff (h : Booked xs) (id : Nat) : (∃ a, (id, a) ∈ taken xs) ↔ id < (taken xs).length := by
  rw [← List.mem_range, ← h.numbers]
  simp

theorem Booked.mem_standing_iff (h : Booked xs) (id : Nat) :
    (∃ a, (id, a) ∈ standing xs) ↔ id < (taken xs).length ∧ id ∉ released xs := by
  rw [h.present, ← h.mem_taken_iff]
  simp

/-- A listener is taken in, under the next number. -/
theorem Booked.takesIn (h : Booked xs) (hid : id = (taken xs).length) : Booked (xs ++ [subscribed id a]) := by
  have hfresh : id ∉ released xs := by
    intro hold
    have hlt := h.known id hold
    omega
  have htaken : taken (xs ++ [subscribed id a]) = taken xs ++ [(id, a)] := taken_append
  have hreleased : released (xs ++ [subscribed id a]) = released xs := by
    rw [released_append]
    exact List.append_nil _
  refine ⟨?_, ?_, ?_, ?_⟩
  · rw [htaken, List.map_append, h.numbers, List.length_append, hid]
    exact List.range_succ.symm
  · intro id' hid'
    rw [hreleased] at hid'
    rw [htaken, List.length_append]
    exact Nat.lt_succ_of_lt (h.known id' hid')
  · rw [hreleased]
    exact h.once
  · rw [standing_concat, htaken, hreleased, List.filter_append, enter, h.present]
    simp [hfresh]

/-- A listener is let go: there was one of that number, and it is gone. -/
theorem Booked.letsGo (h : Booked xs) (hfound : ∃ a, (id, a) ∈ standing xs) :
    Booked (xs ++ [unsubscribed id true]) := by
  obtain ⟨hlt, hfresh⟩ := (h.mem_standing_iff _).1 hfound
  have htaken : taken (xs ++ [unsubscribed id true]) = taken xs := by
    rw [taken_append]
    exact List.append_nil _
  have hreleased : released (xs ++ [unsubscribed id true]) = released xs ++ [id] := released_append
  refine ⟨?_, ?_, ?_, ?_⟩
  · rw [htaken]
    exact h.numbers
  · intro id' hid'
    rw [htaken]
    rcases List.mem_append.1 (hreleased ▸ hid') with hold | hnew
    · exact h.known id' hold
    · rw [List.mem_singleton.1 hnew]
      exact hlt
  · rw [hreleased, ← List.concat_eq_append]
    exact h.once.concat hfresh
  · rw [standing_concat, htaken, hreleased, enter, h.present, List.filter_filter]
    refine List.filter_congr fun l _ => ?_
    by_cases hid : l.1 = id
    · simp [hid]
    · simp [hid, bne]

/-- Nobody has the number that is to be let go. -/
theorem Booked.misses (h : Booked xs) (hnobody : ¬∃ a, (id, a) ∈ standing xs) :
    Booked (xs ++ [unsubscribed id false]) := by
  have htaken : taken (xs ++ [unsubscribed id false]) = taken xs := by
    rw [taken_append]
    exact List.append_nil _
  have hreleased : released (xs ++ [unsubscribed id false]) = released xs := by
    rw [released_append]
    exact List.append_nil _
  refine ⟨?_, ?_, ?_, ?_⟩
  · rw [htaken]
    exact h.numbers
  · rw [htaken, hreleased]
    exact h.known
  · rw [hreleased]
    exact h.once
  · have hstays : (standing xs).filter (·.1 != id) = standing xs := by
      refine List.filter_eq_self.2 fun l hl => ?_
      rw [bne_iff_ne]
      rintro rfl
      exact hnobody ⟨l.2, hl⟩
    rw [standing_concat, htaken, hreleased, enter, hstays]
    exact h.present

/-- An act that takes nobody in and lets nobody go. -/
theorem Booked.passes (h : Booked xs) (htaken : taken? x = none) (hreleased : released? x = none)
    (henter : ∀ ls, enter ls x = ls) : Booked (xs ++ [x]) := by
  have htaken : taken (xs ++ [x]) = taken xs := by
    rw [taken_append]
    simp [taken, htaken]
  have hreleased : released (xs ++ [x]) = released xs := by
    rw [released_append]
    simp [released, hreleased]
  refine ⟨?_, ?_, ?_, ?_⟩
  · rw [htaken]
    exact h.numbers
  · rw [htaken, hreleased]
    exact h.known
  · rw [hreleased]
    exact h.once
  · rw [standing_concat, htaken, hreleased, henter]
    exact h.present

/-- **While the numbers last**, the books are in order. -/
theorem Answered.booked (h : Answered xs) (hlast : (taken xs).length ≤ EventBus.idCount) : Booked xs := by
  induction xs using List.reverseRecOn with
  | nil => exact ⟨rfl, nofun, List.nodup_nil, rfl⟩
  | append_singleton xs x ih =>
    rw [taken_append, List.length_append] at hlast
    have hbooked : Booked xs := ih h.of_append (Nat.le_of_add_right_le hlast)
    cases x with
    | subscribed id a =>
      have hnumber : id = (taken xs).length % EventBus.idCount := h.number xs id a [] rfl
      have hroom : (taken xs).length < EventBus.idCount := hlast
      exact hbooked.takesIn (hnumber.trans (Nat.mod_eq_of_lt hroom))
    | unsubscribed id found =>
      have hfound := h.found xs id found [] rfl
      cases found with
      | true => exact hbooked.letsGo (hfound.1 rfl)
      | false => exact hbooked.misses fun hsome => Bool.false_ne_true (hfound.2 hsome)
    | begun e => exact hbooked.passes rfl rfl fun _ => rfl
    | called n e a => exact hbooked.passes rfl rfl fun _ => rfl
    | ended n => exact hbooked.passes rfl rfl fun _ => rfl

end BusAct

end ModuleHost
