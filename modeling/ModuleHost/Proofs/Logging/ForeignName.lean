import Mathlib
import ModuleHost.Proofs.Logging.ArchiveName
import ModuleHost.Proofs.Storage.Paths

/-!
# Archives of another log

A log takes a name for that of one of its archives if it has the stem in front, the extension at the end, and
between them a number after some text. That text need not be a period, so a log takes archives of another for its
own when the other's stem goes on where its own ends.

* `LogName.takes_iff`: the names that a log takes for its archives', letter by letter.
* `LogName.Shadows`: how two log files in one directory are named when the first takes the archives of the second.
* `LogName.takes_archive_iff`: **a log takes an archive of another exactly if it shadows it**, whatever period and
  number the archive has.
-/

namespace ModuleHost

open Text.Numeral

/-! ### Last dots -/

/-- A text is what stands before and after the place where it was split. -/
theorem append_of_splitLast? {mark : Char} {cs a b : List Char} (h : Text.splitLast? mark cs = some (a, b)) :
    cs = a ++ mark :: b := by
  induction cs generalizing a with
  | nil => cases h
  | cons c cs ih =>
    rw [Text.splitLast?] at h
    split at h
    · rename_i before after heq
      cases h
      rw [ih heq]
      rfl
    · split at h
      · rename_i hc
        cases h
        rw [hc]
        rfl
      · cases h

/-- What stands around the last mark is known. -/
theorem eq_of_append_cons_eq {mark : Char} {a b c d : List Char} (h : a ++ mark :: b = c ++ mark :: d)
    (hb : mark ∉ b) (hd : mark ∉ d) : a = c ∧ b = d := by
  have hsplit := LogName.splitLast?_append a hb
  rw [h, LogName.splitLast?_append c hd] at hsplit
  simp only [Option.some.injEq, Prod.mk.injEq] at hsplit
  exact ⟨hsplit.1.symm, hsplit.2.symm⟩

/-- Two ways to start one text, when what follows the second has no mark. -/
theorem append_cons_eq_cases {mark : Char} {a b c d : List Char} (h : a ++ mark :: b = c ++ mark :: d)
    (hd : mark ∉ d) : c = a ∨ ∃ t, c = a ++ mark :: t := by
  rcases List.append_eq_append_iff.1 h with ⟨t, rfl, ht⟩ | ⟨t, rfl, ht⟩
  · cases t with
    | nil => exact Or.inl (List.append_nil a)
    | cons e t =>
      obtain ⟨rfl, -⟩ := List.cons.inj ht
      exact Or.inr ⟨t, rfl⟩
  · cases t with
    | nil => exact Or.inl (List.append_nil c).symm
    | cons e t =>
      obtain ⟨-, ht⟩ := List.cons.inj ht
      exact absurd (by rw [ht]; simp) hd

namespace LogName

variable {n n' : LogName} {name : String}

/-! ### Names that are taken -/

/-- **A name is taken for that of an archive.** -/
def Takes (n : LogName) (name : String) : Prop :=
  (n.key? name).isSome = true

instance (n : LogName) (name : String) : Decidable (n.Takes name) :=
  inferInstanceAs (Decidable (_ = true))

/-- A number has no dots and no dashes. -/
theorem not_mem_of_index? {cs : List Char} (h : (index? cs).isSome = true) {c : Char}
    (hdigit : c.isDigit = false) (hplus : c ≠ '+') : c ∉ cs := by
  obtain ⟨i, hi⟩ := Option.isSome_iff_exists.1 h
  unfold index? word? at hi
  obtain ⟨k, hk, -⟩ := Option.map_eq_some_iff.1 hi
  replace hk := (Option.filter_eq_some_iff.1 hk).1
  have hall : ∀ ds : List Char, read? ds = some k → c ∉ ds := by
    intro ds hds hc
    rw [(read?_eq_some_iff.1 hds).isDigit c hc] at hdigit
    cases hdigit
  split at hk
  · rename_i ds
    intro hc
    rcases List.mem_cons.1 hc with hc | hc
    · exact hplus hc
    · exact hall ds hk hc
  · exact hall cs hk

/-- **The names that are taken for archives'**: the stem, a dot, some text, a dot, a number, and the extension. -/
theorem takes_iff : n.Takes name ↔ ∃ middle digits, middle ≠ [] ∧ (index? digits).isSome = true ∧
    name.toList = n.stem.toList ++ '.' :: (middle ++ '.' :: (digits ++ n.ending)) := by
  constructor
  · intro h
    obtain ⟨k, hk⟩ := Option.isSome_iff_exists.1 h
    unfold key? at hk
    obtain ⟨r₁, h₁, hk⟩ := Option.bind_eq_some_iff.1 hk
    obtain ⟨r₂, h₂, hk⟩ := Option.bind_eq_some_iff.1 hk
    -- what is left of the name, with the extension put back
    obtain ⟨r₃, hend, hk⟩ : ∃ r₃, r₂ = r₃ ++ n.ending ∧ (Text.splitLast? '.' r₃).bind (fun x =>
        if x.1.isEmpty then none else (index? x.2).map (fun i => ⟨String.ofList x.1, i⟩)) = some k := by
      unfold ending
      cases hext : n.extension with
      | none =>
        simp only [hext] at hk
        exact ⟨r₂, (List.append_nil _).symm, hk⟩
      | some ext =>
        simp only [hext] at hk
        obtain ⟨r₃, h₃, hk⟩ := Option.bind_eq_some_iff.1 hk
        obtain ⟨r, hr, h₃⟩ := Option.bind_eq_some_iff.1 h₃
        refine ⟨r₃, ?_, hk⟩
        rw [Text.stripBack?_eq_some_iff.1 hr, Text.stripBack?_eq_some_iff.1 h₃]
        simp
    obtain ⟨⟨middle, digits⟩, h₄, hk⟩ := Option.bind_eq_some_iff.1 hk
    simp only at hk
    split at hk
    · cases hk
    rename_i hne
    obtain ⟨i, hi, -⟩ := Option.map_eq_some_iff.1 hk
    refine ⟨middle, digits, by simpa using hne, by rw [hi]; rfl, ?_⟩
    rw [Text.stripFront?_eq_some_iff.1 h₁, Text.stripFront?_eq_some_iff.1 h₂, hend, append_of_splitLast? h₄]
    simp
  · rintro ⟨middle, digits, hne, hdigits, hname⟩
    have hdot : '.' ∉ digits := not_mem_of_index? hdigits rfl (by decide)
    have hname' : name.toList = n.stem.toList ++ '.' :: ((middle ++ '.' :: digits) ++ n.ending) := by
      rw [hname]
      simp
    unfold Takes
    rw [key?_of_toList hname', splitLast?_append _ hdot, Option.bind_some]
    simp [hne, hdigits]

/-! ### The name of a file as a log's name -/

/-- **The name of a log file** in its parts. -/
def ofName (name : String) : LogName :=
  ⟨(Path.splitName name).1, (Path.splitName name).2⟩

theorem text_ofName (name : String) : (ofName name).text = name := by
  apply String.toList_injective
  rw [Path.toList_splitName name]
  exact String.toList_ofList

/-- The log file's own name is not taken. -/
theorem not_takes_text (n : LogName) : ¬ n.Takes n.text := by
  unfold Takes
  rw [key?_text]
  exact Bool.false_ne_true

/-- What a log adds to a name without slashes is without slashes. -/
theorem isName_archive {k : ArchiveKey} (hn : '/' ∉ n.text.toList) (h : '/' ∉ k.period.toList) :
    Path.IsName (n.archive k) := by
  unfold text at hn
  rw [String.toList_ofList, List.mem_append, not_or] at hn
  constructor
  · intro h0
    have := congrArg String.toList h0
    rw [toList_archive] at this
    simp at this
  · rw [toList_archive]
    have hdigits : '/' ∉ Nat.toDigits 10 k.index.toNat := fun hmem => ne_of_mem_toDigits hmem rfl rfl
    simp [hn.1, hn.2, h, hdigits]

/-- An extension has no dot. -/
theorem dot_not_mem_extension {ext : String} (h : (ofName name).extension = some ext) : '.' ∉ ext.toList := by
  unfold ofName Path.splitName at h
  simp only at h
  split at h
  · cases h
  · obtain rfl := Option.some.inj h
    rw [String.toList_ofList, List.mem_reverse]
    intro hdot
    have := List.mem_takeWhile_imp hdot
    simp at this

theorem stem_ne_empty (h : name ≠ "") : (ofName name).stem ≠ "" := by
  unfold ofName Path.splitName
  simp only
  split
  · exact h
  · rename_i hne
    intro h0
    have := congrArg String.toList h0
    simp at this
    simp [this] at hne

/-- A name without an extension has no dot but perhaps in front. -/
theorem not_dotted_of_extension_none (h : (ofName name).extension = none) {a b : List Char} (ha : a ≠ []) :
    (ofName name).stem.toList ≠ a ++ '.' :: b := by
  unfold ofName Path.splitName at h ⊢
  simp only at h ⊢
  split
  · rename_i hempty
    simp only
    intro hname
    rw [hname, List.reverse_append, List.reverse_cons, List.append_assoc, List.singleton_append,
      List.dropWhile_append] at hempty
    -- the part in front of the dot is left over
    split at hempty
    · simp [ha] at hempty
    · rename_i hleft
      have hlength := congrArg List.length (List.isEmpty_iff.1 hempty)
      have hpos := List.length_pos_iff.2 ha
      rw [List.length_drop, List.length_append, List.length_cons, List.length_reverse, List.length_nil] at hlength
      omega
  · rename_i hne
    rw [if_neg hne] at h
    cases h

/-! ### Shadows -/

/-- **A log shadows another**: the stem of the other is its own or goes on after it with a dot, and the other's
names end as its own do, by the extension or, if it has none, by a number. -/
structure Shadows (n n' : LogName) : Prop where
  stem : n'.stem = n.stem ∨ ∃ more, n'.stem = n.stem ++ "." ++ more
  ending : n'.extension = n.extension ∨
    n.extension = none ∧ ∃ ext, n'.extension = some ext ∧ (index? ext.toList).isSome = true

/-- The text between stem and number when a log is shadowed. -/
theorem Shadows.exists_middle (h : Shadows n n') (rest : List Char) :
    ∃ front, n'.stem.toList ++ '.' :: rest = n.stem.toList ++ '.' :: (front ++ rest) := by
  rcases h.stem with h | ⟨more, h⟩
  · exact ⟨[], by rw [h]; rfl⟩
  · refine ⟨more.toList ++ ['.'], ?_⟩
    rw [h]
    simp

variable {x x' : String} {k : ArchiveKey}

/-- Archives of a log that is shadowed are taken. -/
theorem Shadows.takes (h : Shadows n n') (hk : k.period ≠ "") : n.Takes (n'.archive k) := by
  have hne : k.period.toList ≠ [] := fun h0 => hk (String.toList_injective (by simpa using h0))
  have hindex : (index? (Nat.toDigits 10 k.index.toNat)).isSome = true := by
    unfold index?
    rw [word?_toDigits k.index.toNat_lt]
    rfl
  rw [takes_iff]
  rcases h.ending with hext | ⟨hnone, ext, hext, hnumber⟩
  · obtain ⟨front, hfront⟩ := h.exists_middle
      (k.period.toList ++ '.' :: (Nat.toDigits 10 k.index.toNat ++ n'.ending))
    refine ⟨front ++ k.period.toList, _, by simp [hne], hindex, ?_⟩
    have hending : n'.ending = n.ending := by unfold LogName.ending; rw [hext]
    rw [toList_archive, hfront, hending]
    simp
  · -- the number before the extension goes with the period, and the extension is the number
    obtain ⟨front, hfront⟩ := h.exists_middle
      (k.period.toList ++ '.' :: (Nat.toDigits 10 k.index.toNat ++ n'.ending))
    refine ⟨front ++ (k.period.toList ++ '.' :: Nat.toDigits 10 k.index.toNat), ext.toList,
      by simp [hne], hnumber, ?_⟩
    rw [toList_archive, hfront]
    unfold LogName.ending
    rw [hext, hnone]
    simp

/-- The stem of a log that is shadowed goes on where the other's ends. -/
theorem stem_of_append_eq {more rest : List Char} (hrest : '.' ∉ rest)
    (h : n.stem.toList ++ '.' :: more = n'.stem.toList ++ '.' :: rest) :
    n'.stem = n.stem ∨ ∃ more, n'.stem = n.stem ++ "." ++ more := by
  rcases append_cons_eq_cases h hrest with h | ⟨t, h⟩
  · exact Or.inl (String.toList_injective h)
  · refine Or.inr ⟨String.ofList t, String.toList_injective ?_⟩
    rw [h]
    simp

/-- **A log takes an archive of another exactly if it shadows it.** The period of the archive has no dot, and it
is no number. -/
theorem takes_archive_iff (hx' : x' ≠ "") (hdot : '.' ∉ k.period.toList) (hdash : '-' ∈ k.period.toList) :
    (ofName x).Takes ((ofName x').archive k) ↔ (ofName x).Shadows (ofName x') := by
  have hk : k.period ≠ "" := by
    intro h0
    rw [h0] at hdash
    simp at hdash
  refine ⟨fun h => ?_, fun h => h.takes hk⟩
  obtain ⟨middle, digits, -, hnumber, hname⟩ := takes_iff.1 h
  have hdigits : '.' ∉ digits := not_mem_of_index? hnumber rfl (by decide)
  have hindex : '.' ∉ Nat.toDigits 10 k.index.toNat := fun h => ne_of_mem_toDigits h rfl rfl
  rw [toList_archive] at hname
  -- of two ways to read the name, the last dots fall on one another
  unfold LogName.ending at hname
  cases hext : (ofName x).extension with
  | none =>
    cases hext' : (ofName x').extension with
    | none =>
      simp only [hext, hext', List.append_nil] at hname
      obtain ⟨hfront, -⟩ := eq_of_append_cons_eq
        (a := (ofName x').stem.toList ++ '.' :: k.period.toList)
        (c := (ofName x).stem.toList ++ '.' :: middle) (by simpa using hname) hindex hdigits
      exact ⟨stem_of_append_eq hdot hfront.symm, Or.inl (hext'.trans hext.symm)⟩
    | some ext' =>
      simp only [hext, hext', List.append_nil] at hname
      obtain ⟨hfront, rfl⟩ := eq_of_append_cons_eq
        (a := (ofName x').stem.toList ++ '.' :: (k.period.toList ++ '.' :: Nat.toDigits 10 k.index.toNat))
        (c := (ofName x).stem.toList ++ '.' :: middle) (by simpa using hname) (dot_not_mem_extension hext') hdigits
      refine ⟨?_, Or.inr ⟨hext, ext', hext', hnumber⟩⟩
      -- a stem without an extension does not reach over the other's dot
      rcases append_cons_eq_cases (a := (ofName x).stem.toList)
        (c := (ofName x').stem.toList ++ '.' :: k.period.toList)
          (by simpa using hfront.symm) hindex with h | ⟨t, h⟩
      · have hstem : (ofName x').stem.toList ≠ [] :=
          fun h0 => stem_ne_empty hx' (String.toList_injective (by simpa using h0))
        exact absurd h.symm (not_dotted_of_extension_none hext hstem)
      · exact stem_of_append_eq hdot h.symm
  | some ext =>
    cases hext' : (ofName x').extension with
    | none =>
      simp only [hext, hext', List.append_nil] at hname
      obtain ⟨hfront, -⟩ := eq_of_append_cons_eq
        (a := (ofName x').stem.toList ++ '.' :: k.period.toList)
        (c := (ofName x).stem.toList ++ '.' :: (middle ++ '.' :: digits)) (by simpa using hname) hindex
        (dot_not_mem_extension hext)
      -- what was read as the number would be the period
      obtain ⟨-, rfl⟩ := eq_of_append_cons_eq (a := (ofName x').stem.toList)
        (c := (ofName x).stem.toList ++ '.' :: middle) (by simpa using hfront) hdot hdigits
      exact absurd hdash (not_mem_of_index? hnumber rfl (by decide))
    | some ext' =>
      simp only [hext, hext'] at hname
      obtain ⟨hfront, hexts⟩ := eq_of_append_cons_eq
        (a := (ofName x').stem.toList ++ '.' :: (k.period.toList ++ '.' :: Nat.toDigits 10 k.index.toNat))
        (c := (ofName x).stem.toList ++ '.' :: (middle ++ '.' :: digits)) (by simpa using hname)
        (dot_not_mem_extension hext') (dot_not_mem_extension hext)
      obtain ⟨hfront, -⟩ := eq_of_append_cons_eq
        (a := (ofName x').stem.toList ++ '.' :: k.period.toList)
        (c := (ofName x).stem.toList ++ '.' :: middle) (by simpa using hfront) hindex hdigits
      refine ⟨stem_of_append_eq hdot hfront.symm, Or.inl ?_⟩
      rw [hext, hext', String.toList_injective hexts]

end LogName

end ModuleHost
