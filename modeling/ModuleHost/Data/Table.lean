/-!
# Tables

Values by name, each name once, in the order in which the names came.

* `Table.get?_insert`, `Table.get?_erase`: what a change does to every look-up.
* `Table.get?_eq_some_iff`: look-ups find all that is in a table.
-/

namespace ModuleHost

/-- **Values by name**, where each name stands once. -/
structure Table (α : Type) where
  entries : List (String × α)
  nodup : (entries.map (·.1)).Nodup
  deriving DecidableEq

namespace Table

variable {α : Type}

/-- The table without names. -/
def empty : Table α :=
  ⟨[], List.nodup_nil⟩

instance : Inhabited (Table α) := ⟨empty⟩

/-- The value of the first entry with a name. -/
def find (es : List (String × α)) (name : String) : Option α :=
  match es with
  | [] => none
  | e :: r => if e.1 = name then some e.2 else find r name

/-- The entries with a value put in the place of the one that a name has, or at the end. -/
def put (name : String) (a : α) : List (String × α) → List (String × α)
  | [] => [(name, a)]
  | e :: r => if e.1 = name then (name, a) :: r else e :: put name a r

theorem mem_names_put {name other : String} {a : α} {es : List (String × α)} :
    other ∈ (put name a es).map (·.1) ↔ other = name ∨ other ∈ es.map (·.1) := by
  induction es with
  | nil => simp [put]
  | cons e r ih =>
    rw [put]
    split
    · rename_i he
      simp [he]
    · rw [List.map_cons, List.mem_cons, ih, List.map_cons, List.mem_cons]
      exact or_left_comm

theorem nodup_put (name : String) (a : α) {es : List (String × α)} (h : (es.map (·.1)).Nodup) :
    ((put name a es).map (·.1)).Nodup := by
  induction es with
  | nil => simp [put]
  | cons e r ih =>
    rw [List.map_cons, List.nodup_cons] at h
    rw [put]
    split
    · rename_i he
      rw [List.map_cons, List.nodup_cons, ← he]
      exact h
    · rename_i he
      rw [List.map_cons, List.nodup_cons, mem_names_put]
      exact ⟨fun hm => hm.elim he h.1, ih h.2⟩

/-- **The value of a name.** -/
def get? (t : Table α) (name : String) : Option α :=
  find t.entries name

/-- Give a name a value. -/
def insert (t : Table α) (name : String) (a : α) : Table α :=
  ⟨put name a t.entries, nodup_put name a t.nodup⟩

/-- Take a name out. -/
def erase (t : Table α) (name : String) : Table α :=
  ⟨t.entries.filter (fun e => e.1 != name), t.nodup.sublist (List.filter_sublist.map _)⟩

/-- The names. -/
def names (t : Table α) : List String :=
  t.entries.map (·.1)

@[simp]
theorem get?_empty (name : String) : (empty : Table α).get? name = none := rfl

theorem find_put (es : List (String × α)) (name other : String) (a : α) :
    find (put name a es) other = if name = other then some a else find es other := by
  induction es with
  | nil => simp [put, find]
  | cons e r ih =>
    rw [put]
    split
    · rename_i he
      subst he
      by_cases ho : e.1 = other <;> simp [find, ho]
    · rename_i he
      rw [find, find, ih]
      by_cases ho : e.1 = other
      · have hn : ¬ name = other := fun h => he (ho.trans h.symm)
        simp [ho, hn]
      · simp [ho]

theorem find_eq_some_iff {es : List (String × α)} (h : (es.map (·.1)).Nodup) {name : String} {a : α} :
    find es name = some a ↔ (name, a) ∈ es := by
  induction es with
  | nil => simp [find]
  | cons e r ih =>
    obtain ⟨n, b⟩ := e
    rw [List.map_cons, List.nodup_cons] at h
    rw [find, List.mem_cons]
    split
    · rename_i hn
      have hr : (name, a) ∉ r := fun hm => h.1 (List.mem_map.2 ⟨(name, a), hm, hn.symm⟩)
      have hn : n = name := hn
      simp [hr, hn, eq_comm]
    · rename_i hn
      have hne : (name, a) ≠ (n, b) := fun he => hn (congrArg Prod.fst he).symm
      simp [ih h.2, hne]

/-- **What is in a table** is what look-ups find. -/
theorem get?_eq_some_iff (t : Table α) {name : String} {a : α} :
    t.get? name = some a ↔ (name, a) ∈ t.entries :=
  find_eq_some_iff t.nodup

@[simp]
theorem get?_insert (t : Table α) (name other : String) (a : α) :
    (t.insert name a).get? other = if name = other then some a else t.get? other :=
  find_put t.entries name other a

@[simp]
theorem get?_erase (t : Table α) (name other : String) :
    (t.erase name).get? other = if name = other then none else t.get? other := by
  simp only [get?, erase]
  generalize t.entries = es
  induction es with
  | nil => simp [find]
  | cons e r ih =>
    rw [List.filter_cons, find]
    split
    · rename_i he
      have he : ¬ e.1 = name := by simpa using he
      rw [find, ih]
      by_cases ho : e.1 = other
      · have hn : ¬ name = other := fun h => he (ho.trans h.symm)
        simp [ho, hn]
      · simp [ho]
    · rename_i he
      have he : e.1 = name := by simpa using he
      rw [ih, he]
      by_cases ho : name = other <;> simp [ho]

end Table

end ModuleHost
