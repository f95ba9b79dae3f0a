import Mathlib
import ModuleHost.Logging.Rolling

/-!
# The steps of paths

Where a directory and a name in it lead, in terms of the steps of a walk.

* `Path.steps_join`: a name inside a directory is one more step.
* `Path.EndsIn.dirOf_spec`: **the directory of a path** takes the steps of the path but the last, up to
  steps that stay where they are.
* `Path.toList_splitName`: stem and extension make up the last name.
-/

namespace ModuleHost.Path

/-! ### Pieces -/

theorem pieces_ne_nil (cs : List Char) : pieces cs ≠ [] := by
  unfold pieces
  split
  · simp
  · split
    · simp
    · split <;> simp

theorem pieces_append (cs ds : List Char) : pieces (cs ++ '/' :: ds) = pieces cs ++ pieces ds := by
  induction cs with
  | nil => rfl
  | cons c cs ih =>
    rw [List.cons_append, pieces, pieces, ih]
    split
    · rfl
    · cases h : pieces cs with
      | nil => exact (pieces_ne_nil cs h).elim
      | cons p ps => rfl

theorem pieces_of_not_mem {cs : List Char} (h : '/' ∉ cs) : pieces cs = [cs] := by
  induction cs with
  | nil => rfl
  | cons c cs ih =>
    rw [List.mem_cons, not_or] at h
    rw [pieces, if_neg (fun hc => h.1 hc.symm), ih h.2]

/-- No piece has a slash. -/
theorem slash_not_mem_of_mem_pieces {cs p : List Char} (hp : p ∈ pieces cs) : '/' ∉ p := by
  induction cs generalizing p with
  | nil => simp [pieces] at hp; simp [hp]
  | cons c cs ih =>
    rw [pieces] at hp
    split at hp
    · rcases List.mem_cons.1 hp with rfl | hp
      · simp
      · exact ih hp
    · rename_i hc
      cases h : pieces cs with
      | nil => exact (pieces_ne_nil cs h).elim
      | cons q qs =>
        rw [h] at hp ih
        rcases List.mem_cons.1 hp with rfl | hp
        · simp [ih List.mem_cons_self, Ne.symm hc]
        · exact ih (List.mem_cons_of_mem _ hp)

/-- The last piece is empty only for the empty text and after a slash. -/
theorem getLast_pieces {cs : List Char} (h : (pieces cs).getLast? = some []) :
    cs = [] ∨ cs.getLast? = some '/' := by
  induction cs with
  | nil => exact Or.inl rfl
  | cons c cs ih =>
    right
    rw [pieces] at h
    split at h
    · rename_i hc
      rw [List.getLast?_cons, List.getLast?_eq_some_getLast (pieces_ne_nil cs), Option.getD_some,
        ← List.getLast?_eq_some_getLast (pieces_ne_nil cs)] at h
      rcases ih h with rfl | hcs
      · simp [hc]
      · simp [List.getLast?_cons, hcs]
    · cases hp : pieces cs with
      | nil => exact (pieces_ne_nil cs hp).elim
      | cons q qs =>
        rw [hp] at h ih
        cases qs with
        | nil => simp at h
        | cons q' qs =>
          rcases ih (by simpa [List.getLast?_cons] using h) with rfl | hcs
          · simp [pieces] at hp
          · simp [List.getLast?_cons, hcs]

/-- The first piece is empty only for the empty text and before a slash. -/
theorem head?_pieces (cs : List Char) :
    (pieces cs).head? = some [] ↔ cs = [] ∨ cs.head? = some '/' := by
  cases cs with
  | nil => simp [pieces]
  | cons c cs =>
    rw [pieces]
    split
    · rename_i hc
      simp [hc]
    · rename_i hc
      cases hp : pieces cs with
      | nil => exact (pieces_ne_nil cs hp).elim
      | cons q qs => simp [hc]

/-! ### Steps -/

theorem steps_append (x y : String) : steps (x ++ "/" ++ y) = steps x ++ steps y := by
  unfold steps
  have h : (x ++ "/" ++ y).toList = x.toList ++ '/' :: y.toList := by simp
  rw [h, pieces_append, List.map_append, List.filter_append]

theorem steps_of_not_mem {x : String} (h : '/' ∉ x.toList) :
    steps x = [x].filter (· != "") := by
  unfold steps
  rw [pieces_of_not_mem h]
  simp

/-- Pieces put together with slashes. -/
theorem steps_intercalate {ps : List String} (h : ∀ p ∈ ps, '/' ∉ p.toList) :
    steps (String.intercalate "/" ps) = ps.filter (· != "") := by
  induction ps with
  | nil => rfl
  | cons p ps ih =>
    have ih := ih (fun q hq => h q (List.mem_cons_of_mem _ hq))
    have hp := steps_of_not_mem (h p List.mem_cons_self)
    cases ps with
    | nil => simpa using hp
    | cons q qs =>
      rw [String.intercalate_cons_cons, steps_append, ih, hp, ← List.filter_append]
      rfl

theorem exists_of_getLast_slash {x : String} (h : x.toList.getLast? = some '/') :
    ∃ y, x = y ++ "/" ++ "" := by
  refine ⟨String.ofList x.toList.dropLast, ?_⟩
  apply String.toList_injective
  have hne : x.toList ≠ [] := by
    intro h0
    rw [h0] at h
    cases h
  have hlast : x.toList.getLast hne = '/' := by
    rw [List.getLast?_eq_some_getLast hne] at h
    exact Option.some.inj h
  simp only [String.toList_append, String.toList_ofList]
  conv_lhs => rw [← List.dropLast_append_getLast hne, hlast]
  simp

/-- A text that can be the name of a file. -/
def IsName (name : String) : Prop :=
  name ≠ "" ∧ '/' ∉ name.toList

theorem IsName.steps {name : String} (h : IsName name) : steps name = [name] := by
  rw [steps_of_not_mem h.2]
  simp [h.1]

/-- **A name inside a directory** is one more step. -/
theorem steps_join {dir name : String} (h : IsName name) :
    steps (join dir name) = steps dir ++ [name] := by
  unfold join
  split
  · rename_i hd
    have hd : dir = "" := by simpa using hd
    rw [hd, h.steps]
    rfl
  · split
    · rename_i hslash
      obtain ⟨y, rfl⟩ := exists_of_getLast_slash hslash
      have hy : y ++ "/" ++ "" = y ++ "/" := by simp
      rw [hy, steps_append, h.steps, ← hy, steps_append]
      simp [show Path.steps "" = [] from rfl]
    · rw [steps_append, h.steps]

theorem not_endsInSlash_join {dir name : String} (h : IsName name) :
    endsInSlash (join dir name) = false := by
  have hname : name.toList ≠ [] := fun h0 => h.1 (String.toList_injective (by simpa using h0))
  have hlast : ∀ cs : List Char, (cs ++ name.toList).getLast? ≠ some '/' := by
    intro cs hc
    rw [List.getLast?_append_of_ne_nil _ hname] at hc
    exact h.2 (List.mem_of_getLast? hc)
  unfold endsInSlash join
  split
  · simpa using hlast []
  · split
    · simpa using hlast dir.toList
    · simpa using hlast (dir.toList ++ ['/'])

theorem isAbsolute_join {dir name : String} (h : IsName name) :
    isAbsolute (join dir name) = isAbsolute dir := by
  have hname : name.toList ≠ [] := fun h0 => h.1 (String.toList_injective (by simpa using h0))
  have hhead : name.toList.head? ≠ some '/' := fun hc => h.2 (List.mem_of_head? hc)
  unfold isAbsolute join
  split
  · rename_i hd
    have hd : dir = "" := by simpa using hd
    rw [hd]
    simpa using hhead
  · rename_i hd
    have hd : dir.toList ≠ [] := fun h0 => hd (by simpa using h0)
    split
    · rw [String.toList_append, List.head?_append_of_ne_nil _ hd]
    · rw [String.toList_append, String.toList_append, List.append_assoc, List.head?_append_of_ne_nil _ hd]

/-- Pieces put together with slashes, the first of them a name, make a relative path. -/
theorem relative_intercalate {p : String} (ps : List String) (h : IsName p) :
    (String.intercalate "/" (p :: ps)).isEmpty = false ∧
      isAbsolute (String.intercalate "/" (p :: ps)) = false := by
  obtain ⟨more, hmore⟩ : ∃ more, String.intercalate "/" (p :: ps) = p ++ more := by
    cases ps with
    | nil => exact ⟨"", by simp⟩
    | cons q ps => exact ⟨_, by rw [String.intercalate_cons_cons, String.append_assoc]⟩
  have hp : p.toList ≠ [] := fun h0 => h.1 (String.toList_injective (by simpa using h0))
  rw [hmore]
  constructor
  · simp [h.1]
  · unfold isAbsolute
    rw [String.toList_append, List.head?_append_of_ne_nil _ hp, beq_eq_false_iff_ne]
    exact fun h0 => h.2 (List.mem_of_head? h0)

/-! ### The directory of a path -/

/-- The steps that lead somewhere else. -/
def solid (steps : List String) : List String :=
  steps.filter (· != ".")

theorem solid_append (ps qs : List String) : solid (ps ++ qs) = solid ps ++ solid qs :=
  List.filter_append ..

/-- Pieces that are steps somewhere else. -/
theorem solid_filter (ps : List String) :
    solid (ps.filter (· != "")) = ps.filter (fun p => !isFiller p) := by
  unfold solid
  rw [List.filter_filter]
  refine List.filter_congr (fun p _ => ?_)
  unfold isFiller
  rw [Bool.not_or, Bool.and_comm]
  rfl

theorem dropFiller_append (ps : List String) {p : String} (h : isFiller p = false) :
    dropFiller (ps ++ [p]) = ps ++ [p] := by
  simp [dropFiller, h]

/-- What is dropped at the end is no step that leads somewhere. -/
theorem filter_dropFiller (ps : List String) :
    (dropFiller ps).filter (fun p => !isFiller p) = ps.filter (fun p => !isFiller p) := by
  have key : ∀ qs : List String,
      (qs.dropWhile isFiller).filter (fun p => !isFiller p) = qs.filter (fun p => !isFiller p) := by
    intro qs
    induction qs with
    | nil => rfl
    | cons q qs ih =>
      rw [List.dropWhile_cons]
      split
      · rename_i hq
        rw [ih, List.filter_cons_of_neg (by simpa using hq)]
      · rfl
  unfold dropFiller
  rw [List.filter_reverse, key, List.filter_reverse, List.reverse_reverse]

theorem dropFiller_isPrefix (ps : List String) : dropFiller ps <+: ps := by
  have h := List.dropWhile_suffix (l := ps.reverse) isFiller
  have h := List.reverse_prefix.2 h
  rw [List.reverse_reverse] at h
  exact h

/-- The text of a path without a start takes the steps of its pieces. -/
theorem solid_steps_intercalate {ps : List String} (h : ∀ p ∈ ps, '/' ∉ p.toList) :
    solid (steps (String.intercalate "/" (dropFiller ps))) = ps.filter (fun p => !isFiller p) := by
  rw [steps_intercalate (fun p hp => h p ((dropFiller_isPrefix ps).subset hp)), solid_filter, filter_dropFiller]

/-! #### The texts of directories -/

theorem text_root (ps : List String) :
    (Parts.text ⟨"/", ps⟩).isEmpty = false ∧ isAbsolute (Parts.text ⟨"/", ps⟩) = true ∧
      solid (steps (Parts.text ⟨"/", ps⟩)) = solid (steps (String.intercalate "/" ps)) := by
  have htext : Parts.text ⟨"/", ps⟩ = "" ++ "/" ++ String.intercalate "/" ps := by
    unfold Parts.text
    cases ps <;> simp
  rw [htext, steps_append, solid_append]
  exact ⟨by simp, by simp [isAbsolute], rfl⟩

theorem text_dot (ps : List String) :
    (Parts.text ⟨".", ps⟩).isEmpty = false ∧ isAbsolute (Parts.text ⟨".", ps⟩) = false ∧
      solid (steps (Parts.text ⟨".", ps⟩)) = solid (steps (String.intercalate "/" ps)) := by
  cases ps with
  | nil => exact ⟨rfl, rfl, rfl⟩
  | cons p ps =>
    have htext : Parts.text ⟨".", p :: ps⟩ = "." ++ "/" ++ String.intercalate "/" (p :: ps) := rfl
    rw [htext, steps_append, solid_append]
    exact ⟨by simp, by simp [isAbsolute], rfl⟩

theorem text_relative {p : String} (ps : List String) (h : IsName p) :
    (Parts.text ⟨"", p :: ps⟩).isEmpty = false ∧ isAbsolute (Parts.text ⟨"", p :: ps⟩) = false ∧
      solid (steps (Parts.text ⟨"", p :: ps⟩)) = solid (steps (String.intercalate "/" (p :: ps))) := by
  have htext : Parts.text ⟨"", p :: ps⟩ = String.intercalate "/" (p :: ps) := by
    simp [Parts.text]
  obtain ⟨hne, hrelative⟩ := relative_intercalate ps h
  rw [htext]
  exact ⟨hne, hrelative, rfl⟩

/-- Every step of a path is a name. -/
theorem isName_of_mem_steps {path name : String} (h : name ∈ steps path) : IsName name := by
  unfold steps at h
  rw [List.mem_filter, List.mem_map] at h
  obtain ⟨⟨p, hp, rfl⟩, hne⟩ := h
  refine ⟨by simpa using hne, ?_⟩
  rw [String.toList_ofList]
  exact slash_not_mem_of_mem_pieces hp

/-- A path that ends in the name of a file. -/
structure EndsIn (path name : String) : Prop where
  steps : (Path.steps path).getLast? = some name
  dots : Disk.isDots name = false
  slash : endsInSlash path = false

/-- A name inside a directory ends in that name. -/
theorem endsIn_join {dir name : String} (h : IsName name) (hdots : Disk.isDots name = false) :
    EndsIn (join dir name) name := by
  refine ⟨?_, hdots, not_endsInSlash_join h⟩
  rw [steps_join h, List.getLast?_concat]

namespace EndsIn

variable {path name : String}

theorem isName (h : EndsIn path name) : IsName name :=
  isName_of_mem_steps (List.mem_of_getLast? h.steps)

theorem not_isFiller (h : EndsIn path name) : isFiller name = false := by
  have hdots := h.dots
  unfold Disk.isDots at hdots
  rw [Bool.or_eq_false_iff] at hdots
  unfold isFiller
  rw [Bool.or_eq_false_iff]
  exact ⟨by simpa using h.isName.1, hdots.1⟩

theorem ne_empty (h : EndsIn path name) : path ≠ "" := by
  rintro rfl
  have := h.steps
  cases this

/-- The pieces before the name. -/
theorem exists_pieces (h : EndsIn path name) :
    ∃ qs, (Path.pieces path.toList).map String.ofList = qs ++ [name] := by
  obtain ⟨l, hl⟩ : ∃ l, (Path.pieces path.toList).getLast? = some l :=
    ⟨_, List.getLast?_eq_some_getLast (pieces_ne_nil _)⟩
  have hsplit : (Path.pieces path.toList).map String.ofList =
      (Path.pieces path.toList).dropLast.map String.ofList ++ [String.ofList l] := by
    conv_lhs => rw [← List.dropLast_append_getLast? l hl]
    simp
  -- an empty last piece would be left by a slash at the end
  have hne : l ≠ [] := by
    rintro rfl
    rcases getLast_pieces hl with h0 | h0
    · exact h.ne_empty (String.toList_injective (by simpa using h0))
    · have := h.slash
      unfold endsInSlash at this
      simp [h0] at this
  have hsteps := h.steps
  unfold Path.steps at hsteps
  have hpos : [String.ofList l].filter (· != "") = [String.ofList l] := by
    have hl' : String.ofList l ≠ "" := fun h0 => hne (by simpa using congrArg String.toList h0)
    simp [hl']
  rw [hsplit, List.filter_append, hpos, List.getLast?_append, List.getLast?_singleton,
    Option.some_or] at hsteps
  rw [Option.some.inj hsteps] at hsplit
  exact ⟨_, hsplit⟩

/-- **The parts of a path** that ends in a name: the root, the directory itself or nothing, then the
pieces, then the name. -/
theorem parts_eq (h : EndsIn path name) {qs : List String}
    (hqs : (Path.pieces path.toList).map String.ofList = qs ++ [name]) :
    ∃ start rs, parts path = ⟨start, rs ++ [name]⟩ ∧
      (start = "/" ∧ qs = "" :: rs ∨ start = "." ∧ qs = "." :: rs ∨
        start = "" ∧ qs = rs ∧ ∀ r ∈ rs.head?, isFiller r = false) := by
  have hfill := h.not_isFiller
  have hdrop := fun ps => dropFiller_append ps hfill
  have hname : name ≠ "" ∧ name ≠ "." := by
    unfold isFiller at hfill
    simpa using hfill
  unfold parts
  rw [hqs]
  cases qs with
  | nil =>
    refine ⟨"", [], ?_, Or.inr (Or.inr ⟨rfl, rfl, by simp⟩)⟩
    have := hdrop []
    rw [List.nil_append] at this ⊢
    split
    · rename_i heq
      simp [hname.1] at heq
    · rename_i heq
      simp [hname.2] at heq
    · rw [this]
  | cons q rs =>
    rw [List.cons_append]
    split
    · rename_i p ps heq
      obtain ⟨rfl, hrs⟩ := List.cons.inj heq
      exact ⟨"/", rs, by rw [← hrs, hdrop], Or.inl ⟨rfl, rfl⟩⟩
    · rename_i ps heq
      obtain ⟨rfl, hrs⟩ := List.cons.inj heq
      exact ⟨".", rs, by rw [← hrs, hdrop], Or.inr (Or.inl ⟨rfl, rfl⟩)⟩
    · -- neither of the other two starts, so the first piece is a name or leads upwards
      rename_i hslash hdot
      refine ⟨"", q :: rs, by rw [← List.cons_append, hdrop], Or.inr (Or.inr ⟨rfl, rfl, ?_⟩)⟩
      intro r hr
      obtain rfl : q = r := by simpa using hr
      unfold isFiller
      rw [Bool.or_eq_false_iff]
      constructor
      · rw [beq_eq_false_iff_ne]
        rintro rfl
        cases hrs : rs ++ [name] with
        | nil => simp at hrs
        | cons p ps => exact hslash p ps (by rw [hrs])
      · rw [beq_eq_false_iff_ne]
        rintro rfl
        exact hdot _ rfl

theorem fileName?_eq (h : EndsIn path name) : fileName? path = some name := by
  obtain ⟨qs, hqs⟩ := h.exists_pieces
  obtain ⟨start, rs, hparts, -⟩ := h.parts_eq hqs
  have hdots := h.dots
  unfold Disk.isDots at hdots
  rw [Bool.or_eq_false_iff] at hdots
  unfold fileName?
  rw [hparts]
  simp only [List.getLast?_append, List.getLast?_singleton, Option.some_or]
  split
  · rename_i heq
    cases heq
  · rename_i heq
    have := Option.some.inj heq
    simp [this] at hdots
  · rename_i heq
    rw [heq]

theorem stem?_eq (h : EndsIn path name) : stem? path = some (splitName name).1 := by
  unfold stem?
  rw [h.fileName?_eq]
  rfl

theorem extension?_eq (h : EndsIn path name) : extension? path = (splitName name).2 := by
  unfold extension?
  rw [h.fileName?_eq]
  rfl

theorem isAbsolute_iff (h : EndsIn path name) {qs : List String}
    (hqs : (Path.pieces path.toList).map String.ofList = qs ++ [name]) :
    isAbsolute path = true ↔ qs.head? = some "" := by
  have hne : path.toList ≠ [] := fun h0 => h.ne_empty (String.toList_injective (by simpa using h0))
  have hhead := head?_pieces path.toList
  have hmap : ((Path.pieces path.toList).map String.ofList).head? = some "" ↔
      (Path.pieces path.toList).head? = some [] := by
    rw [List.head?_map, Option.map_eq_some_iff]
    constructor
    · rintro ⟨p, hp, hp'⟩
      rw [hp]
      simpa using congrArg String.toList hp'
    · intro hp
      exact ⟨[], hp, rfl⟩
  unfold isAbsolute
  rw [beq_iff_eq]
  rw [hqs, hhead] at hmap
  cases qs with
  | nil =>
    have := hmap.2
    simp only [hne, false_or, List.nil_append, List.head?_cons, Option.some.injEq] at this
    simp only [List.head?_nil, reduceCtorEq, iff_false]
    exact fun h0 => h.isName.1 (this h0)
  | cons q qs =>
    simp only [hne, false_or, List.cons_append, List.head?_cons] at hmap
    exact hmap.symm

/-- **The directory of a path**: it starts where the path starts, and takes its steps but the last, up
to steps that stay where they are. -/
theorem dirOf_spec (h : EndsIn path name) :
    isAbsolute (RollingFile.dirOf path) = isAbsolute path ∧
      solid (Path.steps (RollingFile.dirOf path)) = solid (Path.steps path).dropLast := by
  obtain ⟨qs, hqs⟩ := h.exists_pieces
  obtain ⟨start, rs, hparts, hstart⟩ := h.parts_eq hqs
  have hslashless : ∀ r ∈ qs, '/' ∉ r.toList := by
    intro r hr
    have : r ∈ (Path.pieces path.toList).map String.ofList := by
      rw [hqs]
      exact List.mem_append_left _ hr
    obtain ⟨p, hp, rfl⟩ := List.mem_map.1 this
    rw [String.toList_ofList]
    exact slash_not_mem_of_mem_pieces hp
  have hsteps : solid (Path.steps path).dropLast = qs.filter (fun p => !isFiller p) := by
    have hpos : [name].filter (· != "") = [name] := by simpa using h.isName.1
    unfold Path.steps
    rw [hqs, List.filter_append, hpos, List.dropLast_concat, solid_filter]
  have hparent : parent? path = some (Parts.text ⟨start, dropFiller rs⟩) := by
    unfold parent?
    rw [hparts]
    cases hrs : rs ++ [name] with
    | nil => simp at hrs
    | cons p ps =>
      simp only
      rw [← hrs, List.dropLast_concat]
  have habs := h.isAbsolute_iff hqs
  unfold RollingFile.dirOf
  rw [hparent, hsteps]
  simp only
  rcases hstart with ⟨rfl, rfl⟩ | ⟨rfl, rfl⟩ | ⟨rfl, rfl, hhead⟩
  · -- below the root
    obtain ⟨hne, habsolute, hsolid⟩ := text_root (dropFiller rs)
    rw [hne, habs.2 rfl]
    refine ⟨habsolute, hsolid.trans ?_⟩
    exact solid_steps_intercalate (fun r hr => hslashless r (List.mem_cons_of_mem _ hr))
  · -- below the working directory, named by a dot
    obtain ⟨hne, hrelative, hsolid⟩ := text_dot (dropFiller rs)
    have hrel : isAbsolute path = false := by
      rw [Bool.eq_false_iff]
      intro h1
      have := habs.1 h1
      simp at this
    rw [hne, hrel]
    refine ⟨hrelative, hsolid.trans ?_⟩
    exact solid_steps_intercalate (fun r hr => hslashless r (List.mem_cons_of_mem _ hr))
  · -- below the working directory
    have hrel : isAbsolute path = false := by
      rw [Bool.eq_false_iff]
      intro h1
      obtain ⟨rs', rfl⟩ := List.head?_eq_some_iff.1 (habs.1 h1)
      cases hhead "" (by simp)
    have hpieces := solid_steps_intercalate hslashless
    rw [hrel, ← hpieces]
    cases hr : dropFiller qs with
    | nil => exact ⟨rfl, rfl⟩
    | cons p ps =>
      -- what stays of the pieces begins as they do
      have hp : IsName p := by
        obtain ⟨more, hmore⟩ := dropFiller_isPrefix qs
        rw [hr] at hmore
        have hmem : p ∈ qs.head? := by simp [← hmore]
        have hfill := hhead p hmem
        unfold isFiller at hfill
        rw [Bool.or_eq_false_iff] at hfill
        exact ⟨by simpa using hfill.1, hslashless p (List.mem_of_head? hmem)⟩
      obtain ⟨hne, hrelative, hsolid⟩ := text_relative ps hp
      rw [hne]
      exact ⟨hrelative, hsolid⟩

end EndsIn

/-! ### The name -/

/-- **Stem and extension** make up the name. -/
theorem toList_splitName (name : String) :
    name.toList = (splitName name).1.toList ++
      (match (splitName name).2 with
        | some ext => '.' :: ext.toList
        | none => []) := by
  unfold splitName
  simp only
  split
  · simp
  · rename_i hne
    simp only [String.toList_ofList]
    set cs := name.toList with hcs
    have hsplit := List.takeWhile_append_dropWhile (p := (· != '.')) (l := cs.reverse)
    cases hdrop : cs.reverse.dropWhile (· != '.') with
    | nil => simp [hdrop] at hne
    | cons c r =>
      have hc : c = '.' := by
        have := List.head?_dropWhile_not (· != '.') cs.reverse
        rw [hdrop] at this
        simpa using this
      rw [hdrop, hc] at hsplit
      calc cs = (cs.reverse.takeWhile (· != '.') ++ '.' :: r).reverse := by
            rw [hsplit, List.reverse_reverse]
        _ = _ := by rw [List.reverse_append, List.reverse_cons, List.append_assoc]; rfl

end ModuleHost.Path
