import Mathlib
import ModuleHost.Proofs.Storage.Paths
import ModuleHost.Proofs.Storage.Walks

/-!
# What the calls on files do

One lemma for each call, saying all that a call does when it succeeds.

* `Disk.openAppendAt_ok`: opening, through links; `Disk.openAppendAt_leads`, `Disk.openAppendAt_of_walk`:
  it opens what the path leads to.
* `Disk.rename_ok`, `Disk.removeFile_ok`, `Disk.list_ok_iff`, `Disk.read_ok_iff`.
* `Disk.Appended`: a disk on which one file has grown.
-/

namespace ModuleHost.Disk

open ModuleHost.Path (EndsIn)

variable {d d' : Disk} {i j k D start : NodeId} {path x : String} {n m fuel : Nat}

theorem bind_ok_iff {ε α β : Type} {a : Except ε α} {f : α → Except ε β} {r : β} :
    a >>= f = .ok r ↔ ∃ y, a = .ok y ∧ f y = .ok r := by
  cases a with
  | error e => simp [bind, Except.bind]
  | ok y => simp [bind, Except.bind]

/-! ### Where a path leads -/

theorem resolve_ok_iff :
    d.resolve path = .ok i ↔
      checkText path = .ok () ∧ d.walk linkLimit (startOf path d.home) (fullSteps path) = .ok i := by
  unfold resolve
  rw [bind_ok_iff]
  exact ⟨fun ⟨_, h, h'⟩ => ⟨h, h'⟩, fun ⟨h, h'⟩ => ⟨(), h, h'⟩⟩

theorem locate_ok_iff :
    d.locate path = .ok (D, some x) ↔
      checkText path = .ok () ∧ (Path.steps path).getLast? = some x ∧
        d.walk linkLimit (startOf path d.home) (Path.steps path).dropLast = .ok D ∧
        d.isDirNode D = true := by
  unfold locate
  rw [bind_ok_iff]
  constructor
  · rintro ⟨_, htext, h⟩
    refine ⟨htext, ?_⟩
    split at h
    · cases h
    · rename_i y hy
      rw [bind_ok_iff] at h
      obtain ⟨l, hl, h⟩ := h
      split at h
      · rename_i hdir
        cases h
        exact ⟨hy, hl, hdir⟩
      · cases h
  · rintro ⟨htext, hx, hl, hdir⟩
    refine ⟨(), htext, ?_⟩
    rw [hx]
    simp only
    rw [bind_ok_iff]
    exact ⟨D, hl, by rw [if_pos hdir]; rfl⟩

theorem list_ok_iff {names : List String} :
    d.list path = .ok names ↔ checkText path = .ok () ∧ ∃ D es,
      d.walk linkLimit (startOf path d.home) (fullSteps path) = .ok D ∧ d.entries? D = some es ∧
        names = es.map (·.1) := by
  unfold list
  rw [bind_ok_iff]
  constructor
  · rintro ⟨D, hD, h⟩
    obtain ⟨htext, hD⟩ := resolve_ok_iff.1 hD
    split at h
    · rename_i es hes
      cases h
      exact ⟨htext, D, es, hD, hes, rfl⟩
    · cases h
  · rintro ⟨htext, D, es, hD, hes, rfl⟩
    refine ⟨D, resolve_ok_iff.2 ⟨htext, hD⟩, ?_⟩
    rw [hes]
    rfl

theorem read_ok_iff {content : Bytes} :
    d.read path = .ok content ↔ checkText path = .ok () ∧ ∃ i room,
      d.walk linkLimit (startOf path d.home) (fullSteps path) = .ok i ∧
        d.node? i = some (.file content room) := by
  unfold read
  rw [bind_ok_iff]
  constructor
  · rintro ⟨i, hi, h⟩
    obtain ⟨htext, hi⟩ := resolve_ok_iff.1 hi
    split at h
    · rename_i content room hnode
      cases h
      exact ⟨htext, i, room, hi, hnode⟩
    · cases h
    · cases h
  · rintro ⟨htext, i, room, hi, hnode⟩
    refine ⟨i, resolve_ok_iff.2 ⟨htext, hi⟩, ?_⟩
    rw [hnode]
    rfl

/-- A path that ends in a name takes the steps to the directory, and the name. -/
theorem fullSteps_of_endsIn (h : EndsIn path x) :
    fullSteps path = (Path.steps path).dropLast ++ [x] := by
  unfold fullSteps
  rw [h.slash]
  simp [List.dropLast_append_getLast? x h.steps]

/-- **The directory's text leads to the directory** that the path leads to without its name. -/
theorem walk_dirOf (h : EndsIn path x) (hdir : d.isDirNode D = true)
    (hw : d.walk n (startOf path d.home) (Path.steps path).dropLast = .ok D) :
    d.walk n (startOf (RollingFile.dirOf path) d.home) (Path.steps (RollingFile.dirOf path)) = .ok D ∧
      d.walk n (startOf (RollingFile.dirOf path) d.home) (fullSteps (RollingFile.dirOf path)) = .ok D := by
  obtain ⟨habs, hsolid⟩ := h.dirOf_spec
  have hstart : startOf (RollingFile.dirOf path) d.home = startOf path d.home := by
    unfold startOf
    rw [habs]
  rw [hstart]
  have hsteps : d.walk n (startOf path d.home) (Path.steps (RollingFile.dirOf path)) = .ok D := by
    refine walk_of_solid hdir ?_
    unfold Path.solid at hsolid
    rw [hsolid]
    exact walk_solid hw
  refine ⟨hsteps, walk_append_ok_iff.2 ⟨D, hsteps, ?_⟩⟩
  split
  · exact walk_of_solid hdir rfl
  · rfl

/-- A name that is there. -/
theorem entryAt_eq_ok_iff {above : NodeId} {es : List (String × NodeId)}
    (h : d.node? D = some (.dir above es)) (hx : isDots x = false) :
    d.entryAt D x = .ok j ↔ x.utf8ByteSize ≤ nameLimit ∧ lookup es x = some j := by
  unfold isDots at hx
  rw [Bool.or_eq_false_iff, beq_eq_false_iff_ne, beq_eq_false_iff_ne] at hx
  rw [entryAt_ok_iff]
  constructor
  · rintro ⟨above', es', h', hj | hj | ⟨-, -, hsize, hj⟩⟩
    · exact (hx.1 hj.1).elim
    · exact (hx.2 hj.1).elim
    · rw [h] at h'
      cases h'
      exact ⟨hsize, hj⟩
  · rintro ⟨hsize, hj⟩
    exact ⟨above, es, h, Or.inr (Or.inr ⟨hx.1, hx.2, hsize, hj⟩)⟩

/-- A name that is not there. -/
theorem entryAt_eq_notFound {above : NodeId} {es : List (String × NodeId)}
    (h : d.node? D = some (.dir above es)) (hx : isDots x = false)
    (hn : d.entryAt D x = .error .notFound) : x.utf8ByteSize ≤ nameLimit ∧ lookup es x = none := by
  unfold isDots at hx
  rw [Bool.or_eq_false_iff, beq_eq_false_iff_ne, beq_eq_false_iff_ne] at hx
  unfold entryAt at hn
  simp only [h, if_neg hx.1, if_neg hx.2] at hn
  split at hn
  · cases hn
  · rename_i hsize
    refine ⟨Nat.not_lt.1 hsize, ?_⟩
    split at hn
    · cases hn
    · assumption

/-! ### Opening -/

/-- **What opening does**: a file is made where there is none, or found, or the link there is followed. -/
theorem openAppendAt_ok (h : openAppendAt (fuel + 1) start path d = .ok (i, d')) :
    ∃ x D, EndsIn path x ∧
      d.walk linkLimit (startOf path start) (Path.steps path).dropLast = .ok D ∧
      d.isDirNode D = true ∧
      (d.entryAt D x = .error .notFound ∧ i = d.nodes.size ∧
          d' = (d.addNode (.file [] none)).2.bindName D x i ∨
        ∃ j, d.entryAt D x = .ok j ∧
          ((∃ c r, d.node? j = some (.file c r) ∧ i = j ∧ d' = d) ∨
            ∃ t, d.node? j = some (.link t) ∧ openAppendAt fuel D t d = .ok (i, d'))) := by
  rw [openAppendAt] at h
  split at h
  · cases h
  rename_i x hx
  split at h
  · cases h
  rename_i D hD
  split at h
  · cases h
  rename_i hdir
  split at h
  · cases h
  rename_i hname
  rw [Bool.or_eq_true, not_or] at hname
  refine ⟨x, D, ⟨hx, by simpa using hname.2, by simpa using hname.1⟩, hD, by simpa using hdir, ?_⟩
  split at h
  · rename_i hn
    cases h
    exact Or.inl ⟨hn, rfl, rfl⟩
  · cases h
  · rename_i j hj
    refine Or.inr ⟨j, hj, ?_⟩
    split at h
    · rename_i t ht
      split at h
      · cases h
      · exact Or.inr ⟨t, ht, h⟩
    · rename_i c r hfile
      cases h
      exact Or.inl ⟨c, r, hfile, rfl, rfl⟩
    · cases h

theorem openAppend_ok (h : d.openAppend path = .ok (i, d')) :
    checkText path = .ok () ∧ openAppendAt (linkLimit + 1) d.home path d = .ok (i, d') := by
  unfold openAppend at h
  rw [bind_ok_iff] at h
  obtain ⟨_, htext, h⟩ := h
  exact ⟨htext, h⟩

/-- A disk with one more file is above. -/
theorem below_create {above : NodeId} {es : List (String × NodeId)}
    (h : d.node? D = some (.dir above es)) (hx : lookup es x = none) (c : Bytes) (r : Option Nat) :
    Below d ((d.addNode (.file c r)).2.bindName D x d.nodes.size) := by
  have h' : (d.addNode (.file c r)).2.node? D = some (.dir above es) := by
    rw [node?_addNode, if_neg (ne_size_of_node? h)]
    exact h
  refine ⟨(home_bindName h' _ _).symm, fun {j above' es'} hj => ?_, fun j t => ?_⟩
  · rw [node?_bindName h']
    split
    · rename_i hjD
      subst hjD
      rw [h] at hj
      obtain ⟨rfl, rfl⟩ : above = above' ∧ es = es' := by simpa using hj
      refine ⟨_, rfl, fun y k hk => ?_⟩
      rw [lookup_bind, if_neg]
      · exact hk
      · rintro rfl
        rw [hx] at hk
        cases hk
    · rw [node?_addNode, if_neg (ne_size_of_node? hj)]
      exact ⟨es', hj, fun _ _ hk => hk⟩
  · rw [node?_bindName h', node?_addNode]
    split
    · rename_i hjD
      subst hjD
      simp [h]
    · split
      · rename_i hjn
        have : d.node? j = none := by
          unfold node?
          rw [hjn]
          simp
        simp [this]
      · exact Iff.rfl

/-- **What was opened is where the path leads** afterwards. -/
theorem openAppendAt_leads (h : openAppendAt fuel start path d = .ok (i, d')) :
    Below d d' ∧ (∃ c r, d'.node? i = some (.file c r)) ∧
      ∀ m k, d'.walk m (startOf path start) (fullSteps path) = .ok k → k = i := by
  induction fuel generalizing start path with
  | zero => cases h
  | succ fuel ih =>
    obtain ⟨x, D, hends, hD, hdir, hentry⟩ := openAppendAt_ok h
    -- whatever the fuel, the walk comes by the same directory
    have hwalk : ∀ m k, Below d d' → d'.walk m (startOf path start) (fullSteps path) = .ok k →
        ∃ j, d'.entryAt D x = .ok j ∧ d'.land m D j = .ok k := by
      intro m k hbelow hk
      rw [fullSteps_of_endsIn hends] at hk
      obtain ⟨l, hl, hx⟩ := walk_append_ok_iff.1 hk
      rw [walk_unique hl (hbelow.walk (le_refl _) hD)] at hx
      exact walk_singleton_ok_iff.1 hx
    rcases hentry with ⟨hn, rfl, rfl⟩ | ⟨j, hj, ⟨c, r, hfile, rfl, rfl⟩ | ⟨t, ht, hopen⟩⟩
    · -- a new file, which the walk now finds under its name
      obtain ⟨above, es, hnode⟩ := isDirNode_iff.1 hdir
      obtain ⟨-, hlook⟩ := entryAt_eq_notFound hnode hends.dots hn
      have hbelow := below_create hnode hlook [] none
      have hsize := ne_size_of_node? hnode
      have hnode' : (d.addNode (.file [] none)).2.node? D = some (.dir above es) := by
        rw [node?_addNode, if_neg hsize]
        exact hnode
      have hfile : ((d.addNode (.file [] none)).2.bindName D x d.nodes.size).node? d.nodes.size =
          some (.file [] none) := by
        rw [node?_bindName hnode', if_neg hsize.symm, node?_addNode, if_pos rfl]
      refine ⟨hbelow, ⟨[], none, hfile⟩, fun m k hk => ?_⟩
      obtain ⟨j, hj, hl⟩ := hwalk m k hbelow hk
      have hD' := (node?_bindName hnode' x d.nodes.size D).trans (if_pos rfl)
      obtain ⟨-, hlook⟩ := (entryAt_eq_ok_iff hD' hends.dots).1 hj
      rw [lookup_bind, if_pos rfl] at hlook
      cases hlook
      unfold land at hl
      rw [hfile] at hl
      cases hl
      rfl
    · refine ⟨Below.refl _, ⟨c, r, hfile⟩, fun m k hk => ?_⟩
      obtain ⟨j, hj', hl⟩ := hwalk m k (Below.refl _) hk
      rw [hj] at hj'
      cases hj'
      unfold land at hl
      rw [hfile] at hl
      cases hl
      rfl
    · -- a link, which the walk follows just as opening does
      obtain ⟨hbelow, hfile, hleads⟩ := ih hopen
      refine ⟨hbelow, hfile, fun m k hk => ?_⟩
      obtain ⟨j', hj', hl⟩ := hwalk m k hbelow hk
      rw [hbelow.entryAt hj] at hj'
      cases hj'
      unfold land at hl
      rw [(hbelow.links j t).1 ht] at hl
      cases m with
      | zero => cases hl
      | succ m => exact hleads m k hl

/-- **Opening what is there** finds it, and changes nothing. -/
theorem openAppendAt_of_walk {c : Bytes} {r : Option Nat}
    (hk : d.walk m (startOf path start) (fullSteps path) = .ok k) (hfile : d.node? k = some (.file c r))
    (h : openAppendAt fuel start path d = .ok (i, d')) : i = k ∧ d' = d := by
  induction fuel generalizing start path m with
  | zero => cases h
  | succ fuel ih =>
    obtain ⟨x, D, hends, hD, hdir, hentry⟩ := openAppendAt_ok h
    rw [fullSteps_of_endsIn hends] at hk
    obtain ⟨l, hl, hx⟩ := walk_append_ok_iff.1 hk
    rw [walk_unique hl hD] at hx
    obtain ⟨j, hj, hland⟩ := walk_singleton_ok_iff.1 hx
    rcases hentry with ⟨hn, -, -⟩ | ⟨j', hj', ⟨c', r', hfile', rfl, rfl⟩ | ⟨t, ht, hopen⟩⟩
    · rw [hj] at hn
      cases hn
    · rw [hj] at hj'
      cases hj'
      unfold land at hland
      rw [hfile'] at hland
      cases hland
      exact ⟨rfl, rfl⟩
    · rw [hj] at hj'
      cases hj'
      unfold land at hland
      rw [ht] at hland
      cases m with
      | zero => cases hland
      | succ m => exact ih hland hopen

/-- **What was opened is reached by its name** in the directory. -/
theorem entryAt_of_openAppend {content : Bytes} (hends : EndsIn path x) (h : d.openAppend path = .ok (i, d'))
    (hread : d'.read path = .ok content) :
    ∃ D j room, d'.walk linkLimit (startOf path d'.home) (Path.steps path).dropLast = .ok D ∧
      d'.isDirNode D = true ∧ d'.entryAt D x = .ok j ∧ d'.land linkLimit D j = .ok i ∧
      d'.node? i = some (.file content room) := by
  obtain ⟨hbelow, -, hleads⟩ := openAppendAt_leads (openAppend_ok h).2
  rw [hbelow.home] at hleads
  obtain ⟨-, i', room, hi', hfile⟩ := read_ok_iff.1 hread
  obtain rfl := hleads _ _ hi'
  rw [fullSteps_of_endsIn hends] at hi'
  obtain ⟨D, hD, hx⟩ := walk_append_ok_iff.1 hi'
  obtain ⟨j, hj, hl⟩ := walk_singleton_ok_iff.1 hx
  exact ⟨D, j, room, hD, isDirNode_of_walk_cons hx, hj, hl, hfile⟩

/-- **Making a directory that is there** changes nothing. -/
theorem createDirs_of_list {names : List String} (h : d.list path = .ok names) :
    createDirs path d = (.ok (), d) := by
  obtain ⟨htext, D, es, hD, hes, -⟩ := list_ok_iff.1 h
  obtain ⟨above, hnode⟩ := entries?_eq_some.1 hes
  have hisDir : d.isDir path = true := by
    unfold isDir
    rw [resolve_ok_iff.2 ⟨htext, hD⟩]
    exact isDirNode_iff.2 ⟨above, es, hnode⟩
  have hthere : d.createDir path = .error .alreadyExists ∨ d.createDir path = .error .notADirectory := by
    unfold createDir locate
    rw [htext]
    simp only [bind, Except.bind]
    cases hlast : (Path.steps path).getLast? with
    | none => exact Or.inl rfl
    | some x =>
      simp only
      -- the walk to the directory goes by the one that it is in
      have hsplit : fullSteps path = (Path.steps path).dropLast ++
          (x :: (if Path.endsInSlash path then ["."] else [])) := by
        unfold fullSteps
        conv_lhs => rw [← List.dropLast_append_getLast? x hlast]
        simp
      rw [hsplit] at hD
      obtain ⟨l, hl, hrest⟩ := walk_append_ok_iff.1 hD
      obtain ⟨j, -, hj, -⟩ := walk_cons_ok_iff.1 hrest
      have hl' : d.walkWith (d.follow linkLimit) (startOf path d.home) (Path.steps path).dropLast = .ok l :=
        hl
      rw [hl']
      simp only [isDirNode_of_walk_cons hrest, if_true, pure, Except.pure]
      split
      · exact Or.inl rfl
      · rw [hj]
        exact Or.inl rfl
  unfold createDirs createDirsWithin
  split
  · rfl
  · rcases hthere with hthere | hthere
    · simp only [hthere]
    · simp only [hthere]

/-! ### Names -/

/-- **What renaming does**: the entry moves to the new name, and takes the place of another one there. Nothing
happens if both names have the same entry. -/
theorem rename_ok {source target : String} (h : d.rename source target = .ok d') :
    ∃ D x D' y j, d.locate source = .ok (D, some x) ∧ d.locate target = .ok (D', some y) ∧
      isDots x = false ∧ isDots y = false ∧ d.entryAt D x = .ok j ∧
      (d.entryAt D' y = .ok j ∧ d' = d ∨
        ((∃ k, d.entryAt D' y = .ok k ∧ j ≠ k) ∨ d.entryAt D' y = .error .notFound) ∧
          d' = (d.dropName D x).bindName D' y j) := by
  unfold rename at h
  rw [bind_ok_iff] at h
  obtain ⟨⟨D, x?⟩, hsource, h⟩ := h
  rw [bind_ok_iff] at h
  obtain ⟨⟨D', y?⟩, htarget, h⟩ := h
  simp only at h
  split at h
  · rename_i x y
    split at h
    · cases h
    rename_i hdots
    rw [Bool.or_eq_true, not_or] at hdots
    simp only [pure, Except.pure] at h
    rw [bind_ok_iff] at h
    obtain ⟨j, hj, h⟩ := h
    refine ⟨D, x, D', y, j, hsource, htarget, by simpa using hdots.1, by simpa using hdots.2, hj, ?_⟩
    split at h
    · rename_i hn
      cases h
      exact Or.inr ⟨Or.inr hn, rfl⟩
    · cases h
    rename_i k hk
    split at h
    · rename_i hjk
      cases h
      rw [hjk]
      exact Or.inl ⟨hk, rfl⟩
    rename_i hjk
    -- files and empty directories give way to what comes
    refine Or.inr ⟨Or.inl ⟨k, hk, hjk⟩, ?_⟩
    split at h
    · cases h
    · cases h
    · split at h
      · cases h
        rfl
      · cases h
    · cases h
      rfl
  · cases h

/-- **What removing a file does.** -/
theorem removeFile_ok (h : d.removeFile path = .ok d') :
    ∃ D x, d.locate path = .ok (D, some x) ∧ d' = d.dropName D x := by
  unfold removeFile at h
  rw [bind_ok_iff] at h
  obtain ⟨⟨D, x?⟩, hpath, h⟩ := h
  simp only at h
  split at h
  · cases h
  · rename_i x
    rw [bind_ok_iff] at h
    obtain ⟨j, -, h⟩ := h
    split at h
    · cases h
    · simp only [pure, Except.pure, bind, Except.bind] at h
      split at h
      · cases h
      · cases h
        exact ⟨D, x, hpath, rfl⟩

/-! ### Growing files -/

/-- **A disk on which one file has grown**, and nothing else has changed. -/
structure Appended (d : Disk) (i : NodeId) (bytes : Bytes) (d' : Disk) : Prop where
  home : d'.home = d.home
  size : d'.nodes.size = d.nodes.size
  others : ∀ j, j ≠ i → d'.node? j = d.node? j
  file : ∀ c r, d.node? i = some (.file c r) → ∃ r', d'.node? i = some (.file (c ++ bytes) r')
  kind : (∀ c r, d.node? i ≠ some (.file c r)) → d' = d

namespace Appended

theorem refl (d : Disk) (i : NodeId) : Appended d i [] d :=
  ⟨rfl, rfl, fun _ _ => rfl, fun c r h => ⟨r, by rw [List.append_nil]; exact h⟩, fun _ => rfl⟩

theorem trans {d'' : Disk} {bytes bytes' : Bytes} (h : Appended d i bytes d')
    (h' : Appended d' i bytes' d'') : Appended d i (bytes ++ bytes') d'' := by
  refine ⟨h'.home.trans h.home, h'.size.trans h.size,
    fun j hj => (h'.others j hj).trans (h.others j hj), fun c r hf => ?_, fun hf => ?_⟩
  · obtain ⟨r', hf'⟩ := h.file c r hf
    obtain ⟨r'', hf''⟩ := h'.file _ r' hf'
    exact ⟨r'', by rw [← List.append_assoc]; exact hf''⟩
  · have hd := h.kind hf
    subst hd
    exact h'.kind hf

theorem below {bytes : Bytes} (h : Appended d i bytes d') : Below d d' := by
  by_cases hf : ∀ c r, d.node? i ≠ some (.file c r)
  · rw [h.kind hf]
    exact Below.refl d
  · push Not at hf
    obtain ⟨c, r, hf⟩ := hf
    obtain ⟨r', hf'⟩ := h.file c r hf
    refine ⟨h.home.symm, fun {j above es} hj => ?_, fun j t => ?_⟩
    · have hji : j ≠ i := by
        rintro rfl
        rw [hf] at hj
        cases hj
      exact ⟨es, by rw [h.others j hji]; exact hj, fun _ _ hk => hk⟩
    · by_cases hji : j = i
      · subst hji
        simp [hf, hf']
      · rw [h.others j hji]

/-- Directories stay as they are. -/
theorem dir {bytes : Bytes} {above : NodeId} {es : List (String × NodeId)} (h : Appended d i bytes d')
    (hD : d.node? D = some (.dir above es)) : d'.node? D = some (.dir above es) := by
  by_cases hDi : D = i
  · subst hDi
    rw [h.kind (fun c r hf => by rw [hD] at hf; cases hf)]
    exact hD
  · rw [h.others D hDi]
    exact hD

end Appended

theorem append_ok {bytes : Bytes} (h : d.append i bytes = .ok d') : Appended d i bytes d' := by
  have key : ∀ c r r', d.node? i = some (.file c r) →
      Appended d i bytes (d.setNode i (.file (c ++ bytes) r')) := by
    intro c r r' hf
    refine ⟨rfl, by simp [setNode], fun j hj => ?_, fun c' r'' hf' => ⟨r', ?_⟩,
      fun hf' => (hf' c r hf).elim⟩
    · rw [node?_setNode hf, if_neg hj]
    · rw [hf] at hf'
      cases hf'
      rw [node?_setNode hf, if_pos rfl]
  unfold append at h
  split at h
  · rename_i c r hf
    split at h
    · cases h
      exact key c _ _ hf
    · split at h
      · cases h
        exact key c _ _ hf
      · cases h
  · cases h

end ModuleHost.Disk

namespace ModuleHost.LogWriter

variable {w w' : LogWriter} {d d' : Disk} {bytes : Bytes}

/-- **A buffer that is handed over** is empty, and the file has what it held. -/
theorem flush_ok (h : w.flush d = (.ok (), w', d')) :
    Disk.Appended d w.file w.buffer d' ∧ w' = { w with buffer := [] } := by
  unfold flush at h
  split at h
  · rename_i hempty
    cases h
    have hnil : w.buffer = [] := by simpa using hempty
    rw [hnil]
    refine ⟨Disk.Appended.refl d w.file, ?_⟩
    rw [← hnil]
  · split at h
    · rename_i d₁ hd
      cases h
      exact ⟨Disk.append_ok hd, rfl⟩
    · cases h

/-- Bytes after the buffer was emptied go to the buffer, or straight to the file if they are many. -/
theorem putAfterFlush_ok (h : w.putAfterFlush bytes d = (.ok (), w', d')) :
    w'.file = w.file ∧ ∃ out, Disk.Appended d w.file out d' ∧
      (out = [] ∧ w'.buffer = w.buffer ++ bytes ∨
        capacity ≤ bytes.length ∧ out = bytes ∧ w'.buffer = w.buffer) := by
  unfold putAfterFlush at h
  split at h
  · rename_i hmany
    split at h
    · rename_i d₁ hd
      cases h
      exact ⟨rfl, bytes, Disk.append_ok hd, Or.inr ⟨hmany, rfl, rfl⟩⟩
    · cases h
  · cases h
    exact ⟨rfl, [], Disk.Appended.refl _ _, Or.inl ⟨rfl, rfl⟩⟩

/-- **Bytes that are taken** are in the file or in the buffer, after those that were there. -/
theorem put_ok (h : w.put bytes d = (.ok (), w', d')) :
    w'.file = w.file ∧ ∃ out, Disk.Appended d w.file out d' ∧ w.buffer ++ bytes = out ++ w'.buffer := by
  unfold put at h
  simp only at h
  split at h
  · cases h
    exact ⟨rfl, [], Disk.Appended.refl _ _, rfl⟩
  · rename_i hfree
    split at h
    · split at h
      · rename_i w₁ d₁ hflush
        obtain ⟨happ, rfl⟩ := flush_ok hflush
        obtain ⟨hfile, out, hout, ⟨rfl, heq⟩ | ⟨-, rfl, heq⟩⟩ := putAfterFlush_ok h
        · exact ⟨hfile, w.buffer ++ [], happ.trans hout, by rw [heq]; simp⟩
        · exact ⟨hfile, w.buffer ++ out, happ.trans hout, by rw [heq]; simp⟩
      · cases h
    · rename_i hfits
      obtain ⟨hfile, out, hout, ⟨rfl, heq⟩ | ⟨hmany, rfl, heq⟩⟩ := putAfterFlush_ok h
      · exact ⟨hfile, [], hout, by rw [heq]; rfl⟩
      · -- as many bytes as the buffer has room for when it is empty
        have hempty : w.buffer = [] := by
          refine List.length_eq_zero_iff.1 ?_
          unfold capacity at *
          omega
        exact ⟨hfile, out, hout, by rw [heq, hempty]; simp⟩

end ModuleHost.LogWriter
