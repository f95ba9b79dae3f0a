import Mathlib

/-!
# Steps of many parties

Many parties stand in a list and take steps on what they share, each whenever it pleases. A run is a list of steps
that could be taken one after another.

* `foldlM_keeps`: **what every step keeps, every run keeps**.
* `countP_set_add`: a party that moves changes a count of parties by itself at most.
-/

namespace ModuleHost

/-- **What every step keeps, every run keeps.** -/
theorem foldlM_keeps {σ ε : Type} {step : σ → ε → Option σ} {P : σ → Prop}
    (hstep : ∀ t x t', P t → step t x = some t' → P t') {xs : List ε} {t t' : σ} (h : xs.foldlM step t = some t')
    (hP : P t) : P t' := by
  induction xs generalizing t with
  | nil =>
    cases h
    exact hP
  | cons x xs ih =>
    rw [List.foldlM_cons] at h
    obtain ⟨t₁, hx, hrest⟩ := Option.bind_eq_some_iff.1 h
    exact ih hrest (hstep t x t₁ hP hx)

/-- An entry of a list that becomes another one changes a count by itself at most. -/
theorem countP_set_add {α : Type} {l : List α} {i : Nat} {x : α} (p : α → Bool) (hx : l[i]? = some x) (y : α) :
    (l.set i y).countP p + (p x).toNat = l.countP p + (p y).toNat := by
  obtain ⟨hlt, hget⟩ := List.getElem?_eq_some_iff.1 hx
  have hset := List.countP_set (p := p) (a := y) hlt
  rw [hset, hget, Bool.toNat, Bool.toNat, Bool.cond_eq_ite, Bool.cond_eq_ite]
  by_cases hp : p x = true
  · have hpos : 0 < l.countP p := List.countP_pos_iff.2 ⟨x, List.mem_of_getElem? hx, hp⟩
    rw [if_pos hp]
    omega
  · rw [if_neg hp]
    omega

end ModuleHost
