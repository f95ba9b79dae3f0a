import Mathlib
import ModuleHost.Proofs.Storage.Calls

/-!
# What calls leave alone

Calls on files that go by some names leave all other names alone: each stands for what it stood for, in whichever
directory it is, and no file loses anything of what it held.

* `Disk.Proper`: the names on a disk are names.
* `Disk.Spares`: what is left alone between two disks.
* `Disk.spares_append`, `Disk.spares_openAppend`, `Disk.spares_createDirs`, `Disk.spares_rename`,
  `Disk.spares_removeFile`: one lemma for each call, with the names that it goes by.
-/

namespace ModuleHost.Disk

open ModuleHost.Path (EndsIn IsName)

/-- **Every name on the disk is a name**: not empty, and without a slash. -/
def Proper (d : Disk) : Prop :=
  ∀ D above es, d.node? D = some (.dir above es) → ∀ e ∈ es, IsName e.1

theorem proper_empty : empty.Proper := by
  intro D above es hD
  have hlt : D < 4 := lt_size_of_node? hD
  interval_cases D <;> cases hD <;> simp +decide [IsName]

/-- **What is left alone** between two disks. Every name that is not among those of `own` still stands for what
it stood for, in every directory. Links are where they were, and what a file held is still what it begins
with. -/
structure Spares (own : String → Prop) (d d' : Disk) : Prop where
  dirs : ∀ {D above es}, d.node? D = some (.dir above es) → ∃ es',
    d'.node? D = some (.dir above es') ∧ ∀ y i, ¬ own y → lookup es y = some i → lookup es' y = some i
  links : ∀ {j t}, d.node? j = some (.link t) → d'.node? j = some (.link t)
  files : ∀ {j c r}, d.node? j = some (.file c r) → ∃ c' r', d'.node? j = some (.file (c ++ c') r')
  proper : d.Proper → d'.Proper

variable {own : String → Prop} {d d' d'' : Disk} {D D' i j : NodeId} {x y path : String}

namespace Spares

theorem refl (own : String → Prop) (d : Disk) : Spares own d d :=
  ⟨fun h => ⟨_, h, fun _ _ _ h => h⟩, id, fun h => ⟨[], _, by rw [List.append_nil]; exact h⟩, id⟩

theorem trans (h : Spares own d d') (h' : Spares own d' d'') : Spares own d d'' := by
  constructor
  case dirs =>
    intro D above es hD
    obtain ⟨es', hD', hes'⟩ := h.dirs hD
    obtain ⟨es'', hD'', hes''⟩ := h'.dirs hD'
    exact ⟨es'', hD'', fun y i hy hi => hes'' y i hy (hes' y i hy hi)⟩
  case links => exact fun hj => h'.links (h.links hj)
  case files =>
    intro j c r hj
    obtain ⟨c', r', hj'⟩ := h.files hj
    obtain ⟨c'', r'', hj''⟩ := h'.files hj'
    refine ⟨c' ++ c'', r'', ?_⟩
    rw [← List.append_assoc]
    exact hj''
  case proper => exact fun hp => h'.proper (h.proper hp)

end Spares

/-! ### Nodes and names -/

theorem spares_appended {bytes : Bytes} (h : Appended d i bytes d') : Spares own d d' := by
  have hdir : ∀ {D above es}, d'.node? D = some (.dir above es) → d.node? D = some (.dir above es) := by
    intro D above es hD
    by_cases hDi : D = i
    · subst hDi
      by_cases hf : ∀ c r, d.node? D ≠ some (.file c r)
      · rw [h.kind hf] at hD
        exact hD
      · push Not at hf
        obtain ⟨c, r, hf⟩ := hf
        obtain ⟨r', hf'⟩ := h.file c r hf
        rw [hf'] at hD
        cases hD
    · rw [← h.others D hDi]
      exact hD
  constructor
  case dirs => exact fun hD => ⟨_, h.dir hD, fun _ _ _ hi => hi⟩
  case links => exact fun hj => (h.below.links _ _).1 hj
  case files =>
    intro j c r hj
    by_cases hji : j = i
    · subst hji
      obtain ⟨r', hf⟩ := h.file c r hj
      exact ⟨bytes, r', hf⟩
    · refine ⟨[], r, ?_⟩
      rw [List.append_nil, h.others j hji]
      exact hj
  case proper => exact fun hp D above es hD => hp D above es (hdir hD)

/-- A new node is in nobody's way. -/
theorem spares_addNode (n : Node) (hn : ∀ above es, n = .dir above es → es = []) :
    Spares own d (d.addNode n).2 := by
  have hold : ∀ {j m}, d.node? j = some m → (d.addNode n).2.node? j = some m := by
    intro j m hj
    rw [node?_addNode, if_neg (ne_size_of_node? hj)]
    exact hj
  constructor
  case dirs => exact fun hD => ⟨_, hold hD, fun _ _ _ hi => hi⟩
  case links => exact hold
  case files =>
    intro j c r hj
    refine ⟨[], r, ?_⟩
    rw [List.append_nil]
    exact hold hj
  case proper =>
    intro hp D above es hD
    rw [node?_addNode] at hD
    split at hD
    · rw [hn above es (Option.some.inj hD)]
      simp
    · exact hp D above es hD

/-- A directory with other entries, among which those of foreign names are as they were. -/
theorem spares_entries {above : NodeId} {es es' : List (String × NodeId)}
    (hD : d.node? D = some (.dir above es))
    (hd' : ∀ j, d'.node? j = if j = D then some (.dir above es') else d.node? j)
    (hkept : ∀ y i, ¬ own y → lookup es y = some i → lookup es' y = some i)
    (hnames : (∀ e ∈ es, IsName e.1) → ∀ e ∈ es', IsName e.1) : Spares own d d' := by
  have hother : ∀ {j m}, j ≠ D → d.node? j = some m → d'.node? j = some m := by
    intro j m hj hm
    rw [hd', if_neg hj]
    exact hm
  have hne : ∀ {j m}, d.node? j = some m → (∀ above es, m ≠ .dir above es) → j ≠ D := by
    rintro j m hj hm rfl
    rw [hD] at hj
    exact hm above es (Option.some.inj hj).symm
  constructor
  case dirs =>
    intro E above' es₁ hE
    by_cases hED : E = D
    · subst hED
      rw [hD] at hE
      obtain ⟨rfl, rfl⟩ : above = above' ∧ es = es₁ := by simpa using hE
      exact ⟨es', by rw [hd', if_pos rfl], hkept⟩
    · exact ⟨es₁, hother hED hE, fun _ _ _ h => h⟩
  case links => exact fun hj => hother (hne hj (by simp)) hj
  case files =>
    intro j c r hj
    refine ⟨[], r, ?_⟩
    rw [List.append_nil]
    exact hother (hne hj (by simp)) hj
  case proper =>
    intro hp E above' es₁ hE
    rw [hd'] at hE
    split at hE
    · obtain ⟨rfl, rfl⟩ : above = above' ∧ es' = es₁ := by simpa using hE
      exact hnames (hp D above es hD)
    · exact hp E above' es₁ hE

/-- Taking an own name away. -/
theorem spares_dropName (hx : own x) : Spares own d (d.dropName D x) := by
  cases hes : d.entries? D with
  | none =>
    unfold dropName
    rw [hes]
    exact .refl own d
  | some es =>
    obtain ⟨above, hD⟩ := entries?_eq_some.1 hes
    refine spares_entries hD (node?_dropName hD x) (fun y i hy hi => ?_)
      (fun hnames e he => hnames e (List.mem_of_mem_filter he))
    have hyx : y ≠ x := by
      rintro rfl
      exact hy hx
    rw [lookup_filter, if_neg hyx]
    exact hi

/-- Giving an own name, or one that was free. -/
theorem spares_bindName (hname : IsName x)
    (hx : own x ∨ ∀ above es, d.node? D = some (.dir above es) → lookup es x = none) :
    Spares own d (d.bindName D x i) := by
  cases hes : d.entries? D with
  | none =>
    unfold bindName
    rw [hes]
    exact .refl own d
  | some es =>
    obtain ⟨above, hD⟩ := entries?_eq_some.1 hes
    refine spares_entries hD (node?_bindName hD x i) (fun y k hy hk => ?_) (fun hnames e he => ?_)
    · rw [lookup_bind, if_neg]
      · exact hk
      · rintro rfl
        rcases hx with hx | hx
        · exact hy hx
        · rw [hx above es hD] at hk
          cases hk
    · rcases List.mem_append.1 he with he | he
      · exact hnames e (List.mem_of_mem_filter he)
      · rw [List.mem_singleton.1 he]
        exact hname

/-- A new node under a name that was free. -/
theorem spares_create {n : Node} (hn : ∀ above es, n = .dir above es → es = []) (hname : IsName x)
    (hdots : isDots x = false) (hfree : d.entryAt D x = .error .notFound) :
    Spares own d ((d.addNode n).2.bindName D x d.nodes.size) := by
  refine (spares_addNode n hn).trans (spares_bindName hname (Or.inr fun above es hD => ?_))
  rw [node?_addNode] at hD
  split at hD
  · rw [hn above es (Option.some.inj hD)]
    rfl
  · exact (entryAt_eq_notFound hD hdots hfree).2

/-! ### Calls -/

/-- **Appending** adds to one file. -/
theorem spares_append {bytes : Bytes} (h : d.append i bytes = .ok d') : Spares own d d' :=
  spares_appended (append_ok h)

/-- **Opening for appending** makes a file where no name was, if it makes one. -/
theorem spares_openAppendAt {fuel : Nat} {start : NodeId} (h : openAppendAt fuel start path d = .ok (i, d')) :
    Spares own d d' := by
  induction fuel generalizing start path with
  | zero => cases h
  | succ fuel ih =>
    obtain ⟨x, D, hends, -, -, ⟨hfree, rfl, rfl⟩ | ⟨j, -, ⟨c, r, -, -, rfl⟩ | ⟨t, -, hopen⟩⟩⟩ := openAppendAt_ok h
    · exact spares_create (n := .file [] none) (by simp) hends.isName hends.dots hfree
    · exact .refl own d'
    · exact ih hopen

theorem spares_openAppend (h : d.openAppend path = .ok (i, d')) : Spares own d d' :=
  spares_openAppendAt (openAppend_ok h).2

/-- **Making a directory** gives it a name that was free. -/
theorem spares_createDir (h : d.createDir path = .ok d') : Spares own d d' := by
  unfold createDir at h
  rw [bind_ok_iff] at h
  obtain ⟨⟨D, x?⟩, hlocate, h⟩ := h
  cases x? with
  | none => cases h
  | some x =>
  obtain ⟨-, hx, -, -⟩ := locate_ok_iff.1 hlocate
  dsimp only at h
  split at h
  · cases h
  rename_i hdots
  split at h
  · cases h
  · rename_i hfree
    cases h
    exact spares_create (by simp) (Path.isName_of_mem_steps (List.mem_of_getLast? hx)) (by simpa using hdots) hfree
  · cases h

theorem spares_createDirsWithin (fuel : Nat) (path : String) (d : Disk) :
    Spares own d (createDirsWithin fuel path d).2 := by
  induction fuel generalizing path d with
  | zero => exact .refl own d
  | succ fuel ih =>
    unfold createDirsWithin
    split
    · exact .refl own d
    split
    · rename_i h
      exact spares_createDir h
    · split
      · exact .refl own d
      · rename_i parent _
        have hparent := ih parent d
        split
        · rename_i heq
          rw [heq] at hparent
          exact hparent
        · rename_i d₁ heq
          rw [heq] at hparent
          split
          · rename_i h
            exact hparent.trans (spares_createDir h)
          · split <;> exact hparent
    · split <;> exact .refl own d

/-- **Making directories**, whether all of them can be made or not. -/
theorem spares_createDirs (path : String) (d : Disk) : Spares own d (createDirs path d).2 :=
  spares_createDirsWithin _ path d

/-- **Renaming** goes by the old name and the new one. -/
theorem spares_rename {source target : String} (hx : (Path.steps source).getLast? = some x) (hown : own x)
    (hy : (Path.steps target).getLast? = some y) (hown' : own y) (h : d.rename source target = .ok d') :
    Spares own d d' := by
  obtain ⟨D, x', D', y', j, hsource, htarget, -, -, -, hcase⟩ := rename_ok h
  rcases hcase with ⟨-, rfl⟩ | ⟨-, rfl⟩
  · exact .refl own d'
  obtain ⟨-, hx', -, -⟩ := locate_ok_iff.1 hsource
  obtain ⟨-, hy', -, -⟩ := locate_ok_iff.1 htarget
  obtain rfl := Option.some.inj (hx.symm.trans hx')
  obtain rfl := Option.some.inj (hy.symm.trans hy')
  exact (spares_dropName hown).trans
    (spares_bindName (Path.isName_of_mem_steps (List.mem_of_getLast? hy)) (Or.inl hown'))

/-- **Removing** a file goes by its name. -/
theorem spares_removeFile (hx : (Path.steps path).getLast? = some x) (hown : own x)
    (h : d.removeFile path = .ok d') : Spares own d d' := by
  obtain ⟨D, x', hpath, rfl⟩ := removeFile_ok h
  obtain ⟨-, hx', -, -⟩ := locate_ok_iff.1 hpath
  obtain rfl := Option.some.inj (hx.symm.trans hx')
  exact spares_dropName hown

/-- Removing takes a name from a directory, and leaves every file and link what it is. -/
theorem node?_removeFile (h : d.removeFile path = .ok d') (hj : d.isDirNode j = false) :
    d'.node? j = d.node? j := by
  obtain ⟨D, x, hpath, rfl⟩ := removeFile_ok h
  obtain ⟨above, es, hD⟩ := isDirNode_iff.1 (locate_ok_iff.1 hpath).2.2.2
  rw [node?_dropName hD, if_neg (ne_of_isDirNode_eq_false hj hD)]

end ModuleHost.Disk
