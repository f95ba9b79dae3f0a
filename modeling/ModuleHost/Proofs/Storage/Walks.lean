import Mathlib
import ModuleHost.Storage.Disk

/-!
# Walks

Where a walk through directories and links ends, on a disk that changes.

* `Disk.Below`: a disk that another one has all directory entries and links of.
* `Disk.Below.walk`: **what can be walked below can be walked above**, with as much fuel or more; hence
  `Disk.walk_unique`.
* `Disk.walk_dropName`: a walk either goes without a name that leads to no directory, or ends where
  that name leads.
-/

namespace ModuleHost.Disk

variable {b d d' : Disk} {i j k D : NodeId} {x y : String} {steps : List String} {n m : Nat}

/-! ### Nodes after a change -/

theorem node?_setNode {old : Node} (h : d.node? i = some old) (new : Node) (j : NodeId) :
    (d.setNode i new).node? j = if j = i then some new else d.node? j := by
  have hi : i < d.nodes.size := by
    unfold node? at h
    exact (Array.getElem?_eq_some_iff.1 h).1
  unfold node? setNode
  simp only [Array.getElem?_setIfInBounds]
  by_cases hj : j = i
  · subst hj
    simp [hi]
  · simp [hj, Ne.symm hj]

theorem node?_addNode (d : Disk) (new : Node) (j : NodeId) :
    (d.addNode new).2.node? j = if j = d.nodes.size then some new else d.node? j := by
  unfold node? addNode
  simp only [Array.getElem?_push]

theorem lt_size_of_node? {new : Node} (h : d.node? i = some new) : i < d.nodes.size := by
  unfold node? at h
  exact (Array.getElem?_eq_some_iff.1 h).1

theorem ne_size_of_node? {new : Node} (h : d.node? i = some new) : i ≠ d.nodes.size :=
  Nat.ne_of_lt (lt_size_of_node? h)

theorem entries?_eq_some {es : List (String × NodeId)} :
    d.entries? i = some es ↔ ∃ above, d.node? i = some (.dir above es) := by
  unfold entries?
  split
  · rename_i above es' h
    rw [h]
    simp
  · rename_i h
    simp only [reduceCtorEq, false_iff]
    rintro ⟨above, h'⟩
    exact h above es h'

theorem isDirNode_iff : d.isDirNode i = true ↔ ∃ above es, d.node? i = some (.dir above es) := by
  unfold isDirNode
  rw [Option.isSome_iff_exists]
  constructor
  · rintro ⟨es, h⟩
    obtain ⟨above, h⟩ := entries?_eq_some.1 h
    exact ⟨above, es, h⟩
  · rintro ⟨above, es, h⟩
    exact ⟨es, entries?_eq_some.2 ⟨above, h⟩⟩

/-- What is no directory is none of the directories. -/
theorem ne_of_isDirNode_eq_false {above : NodeId} {es : List (String × NodeId)} (hj : d.isDirNode j = false)
    (hD : d.node? D = some (.dir above es)) : j ≠ D := by
  rintro rfl
  rw [isDirNode_iff.2 ⟨above, es, hD⟩] at hj
  cases hj

section Names

variable {above : NodeId} {es : List (String × NodeId)} (h : d.node? D = some (.dir above es))
include h

theorem node?_bindName (x : String) (i j : NodeId) :
    (d.bindName D x i).node? j =
      if j = D then some (.dir above (es.filter (fun e => e.1 != x) ++ [(x, i)])) else d.node? j := by
  unfold bindName setEntries
  rw [entries?_eq_some.2 ⟨above, h⟩]
  simp only [h]
  exact node?_setNode h _ _

theorem node?_dropName (x : String) (j : NodeId) :
    (d.dropName D x).node? j =
      if j = D then some (.dir above (es.filter (fun e => e.1 != x))) else d.node? j := by
  unfold dropName setEntries
  rw [entries?_eq_some.2 ⟨above, h⟩]
  simp only [h]
  exact node?_setNode h _ _

theorem home_bindName (x : String) (i : NodeId) : (d.bindName D x i).home = d.home := by
  unfold bindName setEntries
  rw [entries?_eq_some.2 ⟨above, h⟩]
  simp only [h]
  rfl

theorem home_dropName (x : String) : (d.dropName D x).home = d.home := by
  unfold dropName setEntries
  rw [entries?_eq_some.2 ⟨above, h⟩]
  simp only [h]
  rfl

end Names

theorem lookup_cons (e : String × NodeId) (es : List (String × NodeId)) (y : String) :
    lookup (e :: es) y = if e.1 = y then some e.2 else lookup es y := by
  unfold lookup
  rw [List.find?_cons]
  by_cases he : e.1 = y
  · simp [he]
  · have hbeq : (e.1 == y) = false := by simpa using he
    rw [hbeq, if_neg he]

theorem lookup_filter (es : List (String × NodeId)) (x y : String) :
    lookup (es.filter (fun e => e.1 != x)) y = if y = x then none else lookup es y := by
  induction es with
  | nil => simp [lookup]
  | cons e es ih =>
    rw [List.filter_cons, lookup_cons]
    by_cases hex : e.1 = x
    · subst hex
      by_cases hy : y = e.1
      · simpa [hy] using ih
      · simpa [hy, Ne.symm hy] using ih
    · by_cases hey : e.1 = y
      · subst hey
        simp [hex, lookup_cons]
      · simpa [hex, hey, lookup_cons] using ih

theorem mem_of_lookup {es : List (String × NodeId)} (h : lookup es x = some i) : (x, i) ∈ es := by
  unfold lookup at h
  obtain ⟨e, he, rfl⟩ := Option.map_eq_some_iff.1 h
  have hx : e.1 = x := by simpa using List.find?_some he
  rw [← hx]
  exact List.mem_of_find?_eq_some he

theorem lookup_append_singleton (es : List (String × NodeId)) (x y : String) (i : NodeId) :
    lookup (es ++ [(x, i)]) y = (lookup es y).or (if x = y then some i else none) := by
  unfold lookup
  rw [List.find?_append]
  cases es.find? (fun e => e.1 == y) with
  | some e => rfl
  | none =>
    by_cases hxy : x = y <;> simp [hxy]

theorem lookup_bind (es : List (String × NodeId)) (x y : String) (i : NodeId) :
    lookup (es.filter (fun e => e.1 != x) ++ [(x, i)]) y = if y = x then some i else lookup es y := by
  rw [lookup_append_singleton, lookup_filter]
  by_cases hxy : y = x
  · simp [hxy]
  · simp [hxy, Ne.symm hxy]

/-! ### Walks and links -/

/-- A walk in which links may lead through links, one inside the other, as deep as the fuel goes. -/
def walk (d : Disk) (n : Nat) (i : NodeId) (steps : List String) : Except SystemError NodeId :=
  d.walkWith (d.follow n) i steps

/-- Where an entry of a directory leads, links followed. -/
def land (d : Disk) (n : Nat) (i j : NodeId) : Except SystemError NodeId :=
  match d.node? j with
  | some (.link target) => d.follow n i target
  | _ => .ok j

theorem follow_succ (d : Disk) (n : Nat) (i : NodeId) (target : String) :
    d.follow (n + 1) i target = d.walk n (startOf target i) (fullSteps target) := rfl

theorem walk_nil : d.walk n i [] = .ok i := rfl

/-- **One step of a walk**: an entry, where it leads, and the rest from there. -/
theorem walk_cons_ok_iff :
    d.walk n i (x :: steps) = .ok k ↔
      ∃ j l, d.entryAt i x = .ok j ∧ d.land n i j = .ok l ∧ d.walk n l steps = .ok k := by
  unfold walk land
  rw [walkWith]
  split
  · rename_i e he
    simp [he]
  · rename_i j hj
    simp only [hj, Except.ok.injEq]
    split
    · -- a link leads where its text does from here
      rename_i target ht
      split
      · rename_i e he
        constructor
        · intro h
          cases h
        · rintro ⟨j', l, rfl, hl, -⟩
          rw [ht] at hl
          simp only at hl
          rw [he] at hl
          cases hl
      · rename_i l hl
        constructor
        · exact fun h => ⟨j, l, rfl, by rw [ht]; exact hl, h⟩
        · rintro ⟨j', l', rfl, hl', h⟩
          rw [ht] at hl'
          simp only at hl'
          rw [hl] at hl'
          cases hl'
          exact h
    · -- everything else is where the entry leads
      rename_i hnot
      have hland : (match d.node? j with
          | some (.link target) => d.follow n i target
          | _ => Except.ok j) = .ok j := by
        split
        · rename_i target ht
          exact (hnot target ht).elim
        · rfl
      constructor
      · exact fun h => ⟨j, j, rfl, hland, h⟩
      · rintro ⟨j', l, rfl, hl, h⟩
        rw [hland] at hl
        cases hl
        exact h

theorem walk_append_ok_iff {ps qs : List String} :
    d.walk n i (ps ++ qs) = .ok k ↔ ∃ l, d.walk n i ps = .ok l ∧ d.walk n l qs = .ok k := by
  induction ps generalizing i with
  | nil => simp [walk_nil]
  | cons p ps ih =>
    simp only [List.cons_append, walk_cons_ok_iff, ih]
    constructor
    · rintro ⟨j, l, hj, hl, m, hm, hk⟩
      exact ⟨m, ⟨j, l, hj, hl, hm⟩, hk⟩
    · rintro ⟨m, ⟨j, l, hj, hl, hm⟩, hk⟩
      exact ⟨j, l, hj, hl, m, hm, hk⟩

theorem walk_singleton_ok_iff :
    d.walk n i [x] = .ok k ↔ ∃ j, d.entryAt i x = .ok j ∧ d.land n i j = .ok k := by
  simp [walk_cons_ok_iff, walk_nil]

/-- **An entry of a directory**, with the names for the directory itself and the one above it. -/
theorem entryAt_ok_iff :
    d.entryAt i x = .ok j ↔ ∃ above es, d.node? i = some (.dir above es) ∧
      (x = "." ∧ j = i ∨ x = ".." ∧ j = above ∨
        x ≠ "." ∧ x ≠ ".." ∧ x.utf8ByteSize ≤ nameLimit ∧ lookup es x = some j) := by
  unfold entryAt
  split
  · rename_i above es hi
    simp only [hi, Option.some.injEq, Node.dir.injEq]
    by_cases h1 : x = "."
    · subst h1
      simp [eq_comm]
    · by_cases h2 : x = ".."
      · subst h2
        simp [eq_comm]
      · by_cases h3 : nameLimit < x.utf8ByteSize
        · simp [h1, h2, h3, Nat.not_le.2 h3]
        · simp only [h1, h2, h3, if_false, Nat.not_lt.1 h3]
          cases hl : lookup es x with
          | none =>
            simp only [reduceCtorEq, false_iff]
            rintro ⟨above', es', ⟨rfl, rfl⟩, h | h | ⟨-, -, -, h⟩⟩
            · exact h.1
            · exact h.1
            · rw [hl] at h
              cases h
          | some j' =>
            constructor
            · intro h
              cases h
              exact ⟨above, es, ⟨rfl, rfl⟩, Or.inr (Or.inr ⟨h1, h2, trivial, hl⟩)⟩
            · rintro ⟨above', es', ⟨rfl, rfl⟩, h | h | ⟨-, -, -, h⟩⟩
              · exact h.1.elim
              · exact h.1.elim
              · rw [hl] at h
                rw [Option.some.inj h]
  · rename_i hnot
    simp only [reduceCtorEq, false_iff]
    rintro ⟨above, es, hi, -⟩
    exact hnot above es hi

/-- A walk that goes on starts in a directory. -/
theorem isDirNode_of_walk_cons (h : d.walk n i (x :: steps) = .ok k) : d.isDirNode i = true := by
  obtain ⟨j, -, hj, -⟩ := walk_cons_ok_iff.1 h
  obtain ⟨above, es, hi, -⟩ := entryAt_ok_iff.1 hj
  exact isDirNode_iff.2 ⟨above, es, hi⟩

/-! ### A disk below another -/

/-- **A disk below another**: its directories are there with all their entries, and the links are the
same. Files may have other content, and there may be more of everything but links. -/
structure Below (b d : Disk) : Prop where
  home : b.home = d.home
  dirs : ∀ {j above es}, b.node? j = some (.dir above es) →
    ∃ es', d.node? j = some (.dir above es') ∧ ∀ x k, lookup es x = some k → lookup es' x = some k
  links : ∀ j target, b.node? j = some (.link target) ↔ d.node? j = some (.link target)

namespace Below

theorem refl (d : Disk) : Below d d :=
  ⟨rfl, fun h => ⟨_, h, fun _ _ hk => hk⟩, fun _ _ => Iff.rfl⟩

theorem trans {d₁ d₂ d₃ : Disk} (h : Below d₁ d₂) (h' : Below d₂ d₃) : Below d₁ d₃ := by
  refine ⟨h.home.trans h'.home, fun hj => ?_, fun j t => (h.links j t).trans (h'.links j t)⟩
  obtain ⟨es, h₂, hes⟩ := h.dirs hj
  obtain ⟨es', h₃, hes'⟩ := h'.dirs h₂
  exact ⟨es', h₃, fun x k hk => hes' x k (hes x k hk)⟩

theorem isDirNode (h : Below b d) (hi : b.isDirNode i = true) : d.isDirNode i = true := by
  obtain ⟨above, es, hi⟩ := isDirNode_iff.1 hi
  obtain ⟨es', hi', -⟩ := h.dirs hi
  exact isDirNode_iff.2 ⟨above, es', hi'⟩

theorem entryAt (h : Below b d) (hj : b.entryAt i x = .ok j) : d.entryAt i x = .ok j := by
  obtain ⟨above, es, hi, hx⟩ := entryAt_ok_iff.1 hj
  obtain ⟨es', hi', hes⟩ := h.dirs hi
  refine entryAt_ok_iff.2 ⟨above, es', hi', ?_⟩
  rcases hx with hx | hx | ⟨h1, h2, h3, hl⟩
  · exact Or.inl hx
  · exact Or.inr (Or.inl hx)
  · exact Or.inr (Or.inr ⟨h1, h2, h3, hes x j hl⟩)

/-- Links that are followed below are followed above, if what is inside them is. -/
theorem land_of_follow (h : Below b d)
    (hf : ∀ i t k, b.follow n i t = .ok k → d.follow m i t = .ok k)
    (hl : b.land n i j = .ok k) : d.land m i j = .ok k := by
  unfold Disk.land at hl ⊢
  split at hl
  · rename_i t ht
    rw [(h.links j t).1 ht]
    exact hf i t k hl
  · rename_i hnot
    split
    · rename_i t ht
      exact (hnot t ((h.links j t).2 ht)).elim
    · exact hl

theorem walk_of_follow (h : Below b d)
    (hf : ∀ i t k, b.follow n i t = .ok k → d.follow m i t = .ok k)
    (hw : b.walk n i steps = .ok k) : d.walk m i steps = .ok k := by
  induction steps generalizing i with
  | nil => exact hw
  | cons x steps ih =>
    obtain ⟨j, l, hj, hl, hrest⟩ := walk_cons_ok_iff.1 hw
    exact walk_cons_ok_iff.2 ⟨j, l, h.entryAt hj, h.land_of_follow hf hl, ih hrest⟩

theorem follow (h : Below b d) {t : String} (hnm : n ≤ m) (hf : b.follow n i t = .ok k) :
    d.follow m i t = .ok k := by
  induction n generalizing m i t k with
  | zero => cases hf
  | succ n ih =>
    obtain ⟨m, rfl⟩ := Nat.exists_eq_succ_of_ne_zero (by omega : m ≠ 0)
    rw [follow_succ] at hf ⊢
    exact h.walk_of_follow (fun i t k hk => ih (by omega) hk) hf

/-- **What can be walked below can be walked above**, with as much fuel or more. -/
theorem walk (h : Below b d) (hnm : n ≤ m) (hw : b.walk n i steps = .ok k) :
    d.walk m i steps = .ok k :=
  h.walk_of_follow (fun _ _ _ hk => h.follow hnm hk) hw

theorem land (h : Below b d) (hnm : n ≤ m) (hl : b.land n i j = .ok k) : d.land m i j = .ok k :=
  h.land_of_follow (fun _ _ _ hk => h.follow hnm hk) hl

end Below

/-- **A walk has one end**, however much fuel it has. -/
theorem walk_unique (h : d.walk n i steps = .ok j) (h' : d.walk m i steps = .ok k) : j = k := by
  have h1 := (Below.refl d).walk (Nat.le_max_left n m) h
  have h2 := (Below.refl d).walk (Nat.le_max_right n m) h'
  rw [h1] at h2
  exact Except.ok.inj h2

/-! ### Steps that stay -/

/-- Steps to the directory itself may be left out. -/
theorem walk_solid (h : d.walk n i steps = .ok k) : d.walk n i (steps.filter (· != ".")) = .ok k := by
  induction steps generalizing i with
  | nil => exact h
  | cons x steps ih =>
    obtain ⟨j, l, hj, hl, hrest⟩ := walk_cons_ok_iff.1 h
    by_cases hx : x = "."
    · subst hx
      obtain ⟨above, es, hi, ⟨-, rfl⟩ | ⟨h2, -⟩ | ⟨h1, -⟩⟩ := entryAt_ok_iff.1 hj
      · have hland : d.land n j j = .ok j := by
          unfold land
          rw [hi]
        rw [hland] at hl
        cases hl
        simpa using ih hrest
      · exact absurd h2 (by decide)
      · exact (h1 rfl).elim
    · rw [List.filter_cons_of_pos (by simpa using hx)]
      exact walk_cons_ok_iff.2 ⟨j, l, hj, hl, ih hrest⟩

/-- Steps to the directory itself may be put in, on the way to a directory. -/
theorem walk_of_solid (hk : d.isDirNode k = true)
    (h : d.walk n i (steps.filter (· != ".")) = .ok k) : d.walk n i steps = .ok k := by
  induction steps generalizing i with
  | nil => exact h
  | cons x steps ih =>
    by_cases hx : x = "."
    · subst hx
      rw [List.filter_cons_of_neg (by simp)] at h
      have hi : d.isDirNode i = true := by
        cases hs : steps.filter (· != ".") with
        | nil =>
          rw [hs] at h
          cases h
          exact hk
        | cons y ys =>
          rw [hs] at h
          exact isDirNode_of_walk_cons h
      obtain ⟨above, es, hi⟩ := isDirNode_iff.1 hi
      refine walk_cons_ok_iff.2 ⟨i, i, entryAt_ok_iff.2 ⟨above, es, hi, Or.inl ⟨rfl, rfl⟩⟩, ?_, ih h⟩
      unfold land
      rw [hi]
    · rw [List.filter_cons_of_pos (by simpa using hx)] at h
      obtain ⟨j, l, hj, hl, hrest⟩ := walk_cons_ok_iff.1 h
      exact walk_cons_ok_iff.2 ⟨j, l, hj, hl, ih hrest⟩

/-! ### Walks without a name -/

section Without

variable {above : NodeId} {es : List (String × NodeId)}

/-- A disk with a name taken out is below. -/
theorem below_dropName (h : d.node? D = some (.dir above es)) (x : String) : Below (d.dropName D x) d := by
  refine ⟨home_dropName h x, fun {j above' es'} hj => ?_, fun j t => ?_⟩
  · rw [node?_dropName h] at hj
    split at hj
    · rename_i hjD
      subst hjD
      obtain ⟨rfl, rfl⟩ : above = above' ∧ es.filter (fun e => e.1 != x) = es' := by simpa using hj
      refine ⟨es, h, fun y k hy => ?_⟩
      rw [lookup_filter] at hy
      split at hy
      · cases hy
      · exact hy
    · exact ⟨es', hj, fun _ _ hy => hy⟩
  · rw [node?_dropName h]
    split
    · rename_i hjD
      subst hjD
      simp [h]
    · exact Iff.rfl

theorem entryAt_dropName (h : d.node? D = some (.dir above es)) (hne : i ≠ D ∨ y ≠ x)
    (hj : d.entryAt i y = .ok j) : (d.dropName D x).entryAt i y = .ok j := by
  obtain ⟨above', es', hi, hy⟩ := entryAt_ok_iff.1 hj
  by_cases hiD : i = D
  · subst hiD
    rw [h] at hi
    obtain ⟨rfl, rfl⟩ : above = above' ∧ es = es' := by simpa using hi
    refine entryAt_ok_iff.2 ⟨above, _, by rw [node?_dropName h, if_pos rfl], ?_⟩
    rw [lookup_filter, if_neg (hne.resolve_left (fun hn => hn rfl))]
    exact hy
  · refine entryAt_ok_iff.2 ⟨above', es', ?_, hy⟩
    rw [node?_dropName h, if_neg hiD]
    exact hi

/-- **A walk either goes without a name that leads to no directory, or ends where that name leads.** -/
theorem walk_dropName (h : d.node? D = some (.dir above es))
    (hleaf : ∀ m k, d.walk m D [x] = .ok k → d.isDirNode k = false) (hw : d.walk n i steps = .ok k) :
    (d.dropName D x).walk n i steps = .ok k ∨ ∃ m ≤ n, d.walk m D [x] = .ok k := by
  induction n using Nat.strong_induction_on generalizing i steps k with
  | _ n ihn =>
  induction steps generalizing i with
  | nil => exact Or.inl hw
  | cons y steps ih =>
    obtain ⟨j, l, hj, hl, hrest⟩ := walk_cons_ok_iff.1 hw
    -- a walk that comes to the end of the name goes no further
    have hstop : ∀ m ≤ n, d.walk m D [x] = .ok l → ∃ m ≤ n, d.walk m D [x] = .ok k := by
      intro m hm hlm
      cases steps with
      | nil =>
        cases hrest
        exact ⟨m, hm, hlm⟩
      | cons z zs =>
        have := isDirNode_of_walk_cons hrest
        rw [hleaf m l hlm] at this
        cases this
    by_cases hname : i = D ∧ y = x
    · obtain ⟨rfl, rfl⟩ := hname
      exact Or.inr (hstop n (le_refl n) (walk_singleton_ok_iff.2 ⟨j, hj, hl⟩))
    have hj' : (d.dropName D x).entryAt i y = .ok j := by
      refine entryAt_dropName h ?_ hj
      by_contra hcon
      push Not at hcon
      exact hname hcon
    have hland : (d.dropName D x).land n i j = .ok l ∨ ∃ m ≤ n, d.walk m D [x] = .ok l := by
      unfold land at hl ⊢
      split at hl
      · rename_i t ht
        rw [((below_dropName h x).links j t).2 ht]
        cases n with
        | zero => cases hl
        | succ n =>
          rw [follow_succ] at hl
          rcases ihn n (Nat.lt_succ_self n) hl with hleft | ⟨m, hm, hlm⟩
          · exact Or.inl hleft
          · exact Or.inr ⟨m, by omega, hlm⟩
      · rename_i hnot
        left
        split
        · rename_i t ht
          exact (hnot t (((below_dropName h x).links j t).1 ht)).elim
        · exact hl
    rcases hland with hl' | ⟨m, hm, hlm⟩
    · rcases ih hrest with hleft | hright
      · exact Or.inl (walk_cons_ok_iff.2 ⟨j, l, hj', hl', hleft⟩)
      · exact Or.inr hright
    · exact Or.inr (hstop m hm hlm)

/-- A walk to a directory goes without such a name. -/
theorem walk_dropName_of_isDirNode (h : d.node? D = some (.dir above es))
    (hleaf : ∀ m k, d.walk m D [x] = .ok k → d.isDirNode k = false) (hk : d.isDirNode k = true)
    (hw : d.walk n i steps = .ok k) : (d.dropName D x).walk n i steps = .ok k := by
  rcases walk_dropName h hleaf hw with hleft | ⟨m, -, hm⟩
  · exact hleft
  · rw [hleaf m k hm] at hk
    cases hk

/-- **Where such a name leads**, it leads without itself. -/
theorem land_dropName (h : d.node? D = some (.dir above es))
    (hleaf : ∀ m k, d.walk m D [x] = .ok k → d.isDirNode k = false) (hj : d.entryAt D x = .ok j)
    (hl : d.land n D j = .ok k) : (d.dropName D x).land n D j = .ok k := by
  have hlinks := (below_dropName h x).links j
  cases hnode : d.node? j with
  | some node =>
    cases node with
    | link t =>
      unfold land at hl ⊢
      rw [hnode] at hl
      rw [(hlinks t).2 hnode]
      simp only at hl ⊢
      -- the fuel goes down each time that the link leads through itself
      have key : ∀ n k, d.follow n D t = .ok k → (d.dropName D x).follow n D t = .ok k := by
        intro n
        induction n using Nat.strong_induction_on with
        | _ n ih =>
        intro k hf
        cases n with
        | zero => cases hf
        | succ n =>
          rw [follow_succ] at hf ⊢
          rcases walk_dropName h hleaf hf with hleft | ⟨m, hm, hkm⟩
          · exact hleft
          · obtain ⟨j', hj', hl'⟩ := walk_singleton_ok_iff.1 hkm
            rw [hj] at hj'
            cases hj'
            unfold land at hl'
            rw [hnode] at hl'
            have := ih m (by omega) k hl'
            exact (Below.refl _).follow (by omega : m ≤ n + 1) this
      exact key n k hl
    | _ =>
      unfold land at hl ⊢
      rw [hnode] at hl
      split
      · rename_i t ht
        rw [(hlinks t).1 ht] at hnode
        cases hnode
      · exact hl
  | none =>
    unfold land at hl ⊢
    rw [hnode] at hl
    split
    · rename_i t ht
      rw [(hlinks t).1 ht] at hnode
      cases hnode
    · exact hl

end Without

end ModuleHost.Disk
