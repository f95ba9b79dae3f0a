import Mathlib
import ModuleHost.Proofs.Storage.Calls

/-!
# When calls on files are granted

The other direction of what the calls do: what a disk has to be like for them to succeed.

* `Disk.append_of_roomy`: a file without a limit takes whatever it is given.
* `Disk.openAppendAt_of_land`, `Disk.openAppendAt_of_absent`: opening finds what the path leads to, and makes what
  is not there.
* `Disk.rename_of_free`: renaming to a free name.
-/

namespace ModuleHost.Disk

open ModuleHost.Path (EndsIn)

variable {b d d' : Disk} {i j k D start : NodeId} {path x : String} {n : Nat}

/-! ### Appending -/

/-- **A file that takes whatever it is given.** -/
def Roomy (d : Disk) (i : NodeId) : Prop :=
  ∃ content, d.node? i = some (.file content none)

/-- Files that take whatever they are given still do. -/
def KeepsRoom (d d' : Disk) : Prop :=
  ∀ i, d.Roomy i → d'.Roomy i

theorem KeepsRoom.refl (d : Disk) : KeepsRoom d d := fun _ h => h

theorem KeepsRoom.trans {d'' : Disk} (h : KeepsRoom d d') (h' : KeepsRoom d' d'') : KeepsRoom d d'' :=
  fun i hi => h' i (h i hi)

/-- **A file without a limit** takes the bytes, and has no limit afterwards. -/
theorem append_of_roomy (h : d.Roomy i) (bytes : Bytes) :
    ∃ d', d.append i bytes = .ok d' ∧ KeepsRoom d d' := by
  obtain ⟨content, hi⟩ := h
  refine ⟨d.setNode i (.file (content ++ bytes) none), ?_, fun j hj => ?_⟩
  · unfold append
    rw [hi]
  · by_cases hji : j = i
    · exact ⟨content ++ bytes, by rw [node?_setNode hi, if_pos hji]⟩
    · obtain ⟨c, hc⟩ := hj
      exact ⟨c, by rw [node?_setNode hi, if_neg hji]; exact hc⟩

/-! ### Opening -/

/-- **Every directory is in a directory.** -/
def Rooted (d : Disk) : Prop :=
  ∀ D above es, d.node? D = some (.dir above es) → d.isDirNode above = true

theorem rooted_empty : empty.Rooted := by
  intro D above es hD
  have hlt : D < 4 := lt_size_of_node? hD
  interval_cases D <;> cases hD <;> rfl

/-- A path without steps is empty, or has nothing but slashes. -/
theorem endsInSlash_of_steps_nil (h : (Path.steps path).getLast? = none) :
    Path.endsInSlash path = true ∨ path = "" := by
  by_contra hnot
  rw [not_or, Bool.not_eq_true] at hnot
  obtain ⟨l, hl⟩ : ∃ l, (Path.pieces path.toList).getLast? = some l :=
    ⟨_, List.getLast?_eq_some_getLast (Path.pieces_ne_nil _)⟩
  -- the last piece is a step, unless it is empty
  have hnil : l = [] := by
    by_contra hne
    have hmem : String.ofList l ∈ Path.steps path := by
      unfold Path.steps
      rw [List.mem_filter, List.mem_map]
      refine ⟨⟨l, List.mem_of_getLast? hl, rfl⟩, ?_⟩
      simpa using hne
    rw [List.getLast?_eq_none_iff.1 h] at hmem
    exact List.not_mem_nil hmem
  subst hnil
  rcases Path.getLast_pieces hl with hempty | hslash
  · exact hnot.2 (String.toList_injective hempty)
  · have hends := hnot.1
    unfold Path.endsInSlash at hends
    simp [hslash] at hends

/-- A file above is no directory below. -/
theorem Below.not_isDirNode (h : Below b d) {c : Bytes} {r : Option Nat} (hfile : d.node? k = some (.file c r)) :
    b.isDirNode k = false := by
  rw [Bool.eq_false_iff]
  intro hdir
  obtain ⟨above, es, hnode⟩ := isDirNode_iff.1 (h.isDirNode hdir)
  rw [hfile] at hnode
  cases hnode

/-- **A walk to what is no directory** ends in a name. -/
theorem endsIn_of_walk (hrooted : b.Rooted) (hstart : b.isDirNode start = true)
    (hw : b.walk n (startOf path start) (fullSteps path) = .ok k) (hk : b.isDirNode k = false) :
    ∃ x D j, EndsIn path x ∧ b.walk n (startOf path start) (Path.steps path).dropLast = .ok D ∧
      b.isDirNode D = true ∧ b.entryAt D x = .ok j ∧ b.land n D j = .ok k := by
  -- a directory is where an entry for a directory leads
  have hland : ∀ D j, b.isDirNode j = true → b.land n D j = .ok k → False := by
    intro D j hj hl
    obtain ⟨above, es, hnode⟩ := isDirNode_iff.1 hj
    unfold land at hl
    rw [hnode] at hl
    cases hl
    rw [hk] at hj
    cases hj
  have hslash : Path.endsInSlash path = false := by
    rw [Bool.eq_false_iff]
    intro hslash
    unfold fullSteps at hw
    rw [if_pos hslash] at hw
    obtain ⟨D, -, hdot⟩ := walk_append_ok_iff.1 hw
    obtain ⟨j, hj, hl⟩ := walk_singleton_ok_iff.1 hdot
    obtain ⟨above, es, hD, ⟨-, rfl⟩ | ⟨hdots, -⟩ | ⟨hdot, -⟩⟩ := entryAt_ok_iff.1 hj
    · exact hland j j (isDirNode_iff.2 ⟨above, es, hD⟩) hl
    · exact absurd hdots (by decide)
    · exact hdot rfl
  cases hlast : (Path.steps path).getLast? with
  | none =>
    rcases endsInSlash_of_steps_nil hlast with h | rfl
    · rw [hslash] at h
      cases h
    · cases hw
      have hsame : startOf "" start = start := rfl
      rw [hsame, hstart] at hk
      cases hk
  | some x =>
    have hsplit : fullSteps path = (Path.steps path).dropLast ++ [x] := by
      unfold fullSteps
      rw [hslash]
      simp [List.dropLast_append_getLast? x hlast]
    rw [hsplit] at hw
    obtain ⟨D, hD, hx⟩ := walk_append_ok_iff.1 hw
    have hdir := isDirNode_of_walk_cons hx
    obtain ⟨j, hj, hl⟩ := walk_singleton_ok_iff.1 hx
    refine ⟨x, D, j, ⟨hlast, ?_, hslash⟩, hD, hdir, hj, hl⟩
    unfold isDots
    rw [Bool.or_eq_false_iff, beq_eq_false_iff_ne, beq_eq_false_iff_ne]
    obtain ⟨above, es, hnode, h⟩ := entryAt_ok_iff.1 hj
    constructor
    · rintro rfl
      rcases h with ⟨-, rfl⟩ | ⟨hdots, -⟩ | ⟨hdot, -⟩
      · exact hland j j hdir hl
      · exact absurd hdots (by decide)
      · exact hdot rfl
    · rintro rfl
      rcases h with ⟨hdot, -⟩ | ⟨-, rfl⟩ | ⟨-, hdots, -⟩
      · exact absurd hdot (by decide)
      · exact hland D j (hrooted D j es hnode) hl
      · exact hdots rfl

section Opening

variable {fuel : Nat} (hends : EndsIn path x)
  (hw : d.walk linkLimit (startOf path start) (Path.steps path).dropLast = .ok D) (hdir : d.isDirNode D = true)
include hends hw hdir

/-- Once the directory is reached, the name in it decides. -/
theorem openAppendAt_eq : openAppendAt (fuel + 1) start path d =
    match d.entryAt D x with
    | .error .notFound => .ok (d.nodes.size, (d.addNode (.file [] none)).2.bindName D x d.nodes.size)
    | .error e => .error e
    | .ok i =>
      match d.node? i with
      | some (.link target) => if target.isEmpty then .error .notFound else openAppendAt fuel D target d
      | some (.file ..) => .ok (i, d)
      | _ => .error .isADirectory := by
  rw [openAppendAt]
  unfold walk at hw
  simp only [hends.steps, hw, hdir, hends.slash, hends.dots, Bool.not_true, Bool.false_eq_true, if_false,
    Bool.or_self]
  rfl

/-- **A name that is not there** is made. -/
theorem openAppendAt_of_absent (hx : d.entryAt D x = .error .notFound) :
    openAppendAt (fuel + 1) start path d =
      .ok (d.nodes.size, (d.addNode (.file [] none)).2.bindName D x d.nodes.size) := by
  rw [openAppendAt_eq hends hw hdir, hx]

theorem openAppendAt_of_file (hj : d.entryAt D x = .ok j) {c : Bytes} {r : Option Nat}
    (hfile : d.node? j = some (.file c r)) : openAppendAt (fuel + 1) start path d = .ok (j, d) := by
  rw [openAppendAt_eq hends hw hdir, hj]
  simp only [hfile]

theorem openAppendAt_of_link (hj : d.entryAt D x = .ok j) {target : String}
    (hlink : d.node? j = some (.link target)) (htarget : target ≠ "") :
    openAppendAt (fuel + 1) start path d = openAppendAt fuel D target d := by
  rw [openAppendAt_eq hends hw hdir, hj]
  simp [hlink, htarget]

end Opening

/-- **Opening what a path leads to** finds it, if the links on the way are those of a disk below. -/
theorem openAppendAt_of_land (hb : Below b d) (hrooted : b.Rooted) (hn : n ≤ linkLimit)
    (hends : EndsIn path x) (hw : d.walk linkLimit (startOf path start) (Path.steps path).dropLast = .ok D)
    (hdir : b.isDirNode D = true) (hj : d.entryAt D x = .ok j) (hl : b.land n D j = .ok k) {c : Bytes}
    {r : Option Nat} (hfile : d.node? k = some (.file c r)) :
    openAppendAt (n + 1) start path d = .ok (k, d) := by
  have hnotDir := hb.not_isDirNode hfile
  have hdir' := hb.isDirNode hdir
  -- links are followed just as the walk follows them
  induction n generalizing start path x D j with
  | zero =>
    unfold land at hl
    split at hl
    · cases hl
    · cases hl
      exact openAppendAt_of_file hends hw hdir' hj hfile
  | succ n ih =>
    unfold land at hl
    split at hl
    · rename_i target htarget
      rw [follow_succ] at hl
      obtain ⟨y, E, l, hends', hE, hdirE, hl', hland⟩ := endsIn_of_walk hrooted hdir hl hnotDir
      rw [openAppendAt_of_link hends hw hdir' hj ((hb.links j target).1 htarget) hends'.ne_empty]
      exact ih (by omega) hends' (hb.walk (by omega) hE) hdirE (hb.entryAt hl') hland (hb.isDirNode hdirE)
    · cases hl
      exact openAppendAt_of_file hends hw hdir' hj hfile

/-! ### Names -/

/-- Names that are chosen by their text are found as before, and the others not at all. -/
theorem lookup_filter_name (es : List (String × NodeId)) (p : String → Bool) (y : String) :
    lookup (es.filter (fun e => p e.1)) y = if p y then lookup es y else none := by
  induction es with
  | nil => simp [lookup]
  | cons e es ih =>
    rw [List.filter_cons, lookup_cons]
    by_cases hey : e.1 = y
    · subst hey
      cases hp : p e.1 with
      | true => simp [lookup_cons]
      | false => simpa [hp] using ih
    · cases hp : p e.1 with
      | true => simpa [lookup_cons, hey] using ih
      | false => simpa [hey] using ih

/-- **Renaming to a free name** moves the entry. -/
theorem rename_of_free {source target y : String} {D' : NodeId} (hs : d.locate source = .ok (D, some x))
    (ht : d.locate target = .ok (D', some y)) (hx : isDots x = false) (hy : isDots y = false)
    (hj : d.entryAt D x = .ok j) (hfree : d.entryAt D' y = .error .notFound) :
    d.rename source target = .ok ((d.dropName D x).bindName D' y j) := by
  unfold rename
  simp only [hs, ht, hx, hy, hj, hfree, bind, Except.bind, pure, Except.pure, Bool.or_self,
    Bool.false_eq_true, if_false]

end ModuleHost.Disk
