/-!
# Logging categories

A category is a dotted name such as `a.b` or `a::b`; the ones above it are what stands before its
separators, from the last one to the first.

* `lineage`: a category and those above it, the nearest first.
* `Categories`: a set of categories in the order of their names.
-/

namespace ModuleHost

/-- What stands before the last separator, which is a dot or a pair of colons. -/
def cutLast? : List Char → Option (List Char)
  | [] => none
  | c :: r =>
    match cutLast? r with
    | some p => some (c :: p)
    | none => if c = '.' ∨ (c = ':' ∧ r.head? = some ':') then some [] else none

theorem length_of_cutLast? {cs p : List Char} (h : cutLast? cs = some p) : p.length < cs.length := by
  induction cs generalizing p with
  | nil => simp [cutLast?] at h
  | cons c r ih =>
    rw [cutLast?] at h
    split at h
    · rename_i q hq
      obtain rfl := Option.some.inj h
      simpa using ih hq
    · split at h
      · obtain rfl := Option.some.inj h
        simp
      · simp at h

/-- A name and what stands before each of its separators, down to the shortest. -/
def lineageChars (cs : List Char) : List (List Char) :=
  match _h : cutLast? cs with
  | none => [cs]
  | some p => cs :: lineageChars p
termination_by cs.length
decreasing_by exact length_of_cutLast? _h

/-- **A category and those above it**, the nearest first; a separator at the start leads nowhere. -/
def lineage (target : String) : List String :=
  ((lineageChars target.toList).filter (fun cs => !cs.isEmpty)).map String.ofList

/-- Put a name into a list of names in their order, where each stands once. -/
def insertName (name : String) : List String → List String
  | [] => [name]
  | n :: r =>
    if name < n then name :: n :: r
    else if name = n then n :: r
    else n :: insertName name r

theorem mem_insertName {name x : String} {ns : List String} :
    x ∈ insertName name ns ↔ x = name ∨ x ∈ ns := by
  induction ns with
  | nil => simp [insertName]
  | cons n r ih =>
    rw [insertName]
    split
    · simp
    · split
      · rename_i h
        subst h
        simp
      · simp [ih, or_left_comm]

theorem pairwise_insertName {name : String} {ns : List String} (h : ns.Pairwise (· < ·)) :
    (insertName name ns).Pairwise (· < ·) := by
  induction ns with
  | nil => simp [insertName]
  | cons n r ih =>
    obtain ⟨hn, hr⟩ := List.pairwise_cons.1 h
    rw [insertName]
    split
    · rename_i hlt
      refine List.pairwise_cons.2 ⟨?_, h⟩
      intro x hx
      rcases List.mem_cons.1 hx with rfl | hx
      · exact hlt
      · exact String.lt_trans hlt (hn x hx)
    · split
      · exact h
      · rename_i hlt hne
        refine List.pairwise_cons.2 ⟨?_, ih hr⟩
        intro x hx
        rcases mem_insertName.1 hx with rfl | hx
        · rcases String.le_total x n with hle | hle
          · exact absurd (String.le_antisymm hle (String.not_lt.1 hlt)) hne
          · exact String.not_le.1 (fun hle' => hne (String.le_antisymm hle' hle))
        · exact hn x hx

/-- **A set of categories**, each once, in the order of their names. -/
structure Categories where
  names : List String
  sorted : names.Pairwise (· < ·)
  deriving DecidableEq

namespace Categories

instance : Inhabited Categories := ⟨⟨[], List.Pairwise.nil⟩⟩

/-- The set of some categories. -/
def ofList : List String → Categories
  | [] => ⟨[], List.Pairwise.nil⟩
  | c :: cs => ⟨insertName c (ofList cs).names, pairwise_insertName (ofList cs).sorted⟩

/-- The set without one category. -/
def erase (s : Categories) (name : String) : Categories :=
  ⟨s.names.filter (· != name), s.sorted.sublist List.filter_sublist⟩

theorem mem_ofList {cs : List String} {x : String} : x ∈ (ofList cs).names ↔ x ∈ cs := by
  induction cs with
  | nil => simp [ofList]
  | cons c r ih => simp [ofList, mem_insertName, ih]

theorem mem_erase {s : Categories} {name x : String} :
    x ∈ (s.erase name).names ↔ x ∈ s.names ∧ x ≠ name := by
  simp [erase]

end Categories

end ModuleHost
