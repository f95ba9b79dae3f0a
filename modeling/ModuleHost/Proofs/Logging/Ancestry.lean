import Mathlib
import ModuleHost.Logging.Tree

/-!
# What stands above a category

A category stands above a target if the target is the category itself, or starts with it and a separator.
The way from a target to the root leads by way of such categories only, and past all of them if no three
colons stand in a row.

* `Above`: a category and what is below it, by way of a dot or a pair of colons.
* `cutLast?_spec`: cutting at the last separator leaves the longest category that stands above.
* `above_of_mem_lineage`: **nothing else is on the way**, whatever the target.
* `mem_lineage_iff`: **nothing is left out**, if no three colons stand in a row.
* `getElem?_lineageChars`, `walk_ends`: the way is one cut after another, and comes to an end.
-/

namespace ModuleHost

/-- **A category that stands above a target**: the target itself, or what it starts with in front of a
separator. -/
def Above (p t : String) : Prop :=
  p = t ∨ (p ++ ".").toList <+: t.toList ∨ (p ++ "::").toList <+: t.toList

instance (p t : String) : Decidable (Above p t) :=
  inferInstanceAs (Decidable (_ ∨ _ ∨ _))

/-- Three colons in a row, which can be cut in two ways. -/
def HasTripleColon (t : String) : Prop :=
  ":::".toList <:+: t.toList

instance (t : String) : Decidable (HasTripleColon t) :=
  inferInstanceAs (Decidable (_ <:+: _))

/-! ### Cutting at a separator -/

/-- What stands in front of one of the separators. -/
def Before (q cs : List Char) : Prop :=
  q ++ ['.'] <+: cs ∨ q ++ [':', ':'] <+: cs

variable {q p cs : List Char} {c x : Char}

theorem not_before_nil : ¬Before q [] := by
  simp [Before]

theorem before_cons_cons : Before (x :: q) (c :: cs) ↔ x = c ∧ Before q cs := by
  unfold Before
  simp only [List.cons_append, List.cons_prefix_cons]
  exact and_or_left.symm

theorem before_nil_cons : Before [] (c :: cs) ↔ c = '.' ∨ c = ':' ∧ cs.head? = some ':' := by
  unfold Before
  simp only [List.nil_append, List.cons_prefix_cons, List.nil_prefix, and_true]
  refine or_congr eq_comm (and_congr eq_comm ?_)
  cases cs <;> simp [eq_comm]

theorem Before.isPrefix (h : Before q cs) : q <+: cs :=
  h.elim (List.prefix_append _ _).trans (List.prefix_append _ _).trans

theorem Before.length_lt (h : Before q cs) : q.length < cs.length := by
  rcases h with h | h
  · simpa using h.length_le
  · have hle := h.length_le
    simp only [List.length_append, List.length_cons, List.length_nil] at hle
    omega

theorem Before.mono (h : Before q p) (hp : p <+: cs) : Before q cs :=
  h.imp (fun h => h.trans hp) (fun h => h.trans hp)

/-- **Cutting at the last separator** leaves the longest that stands in front of one. -/
theorem cutLast?_spec (cs : List Char) :
    (cutLast? cs = none → ∀ q, ¬Before q cs) ∧
      ∀ p, cutLast? cs = some p → Before p cs ∧ ∀ q, Before q cs → q.length ≤ p.length := by
  induction cs with
  | nil => simp [cutLast?, not_before_nil]
  | cons c r ih =>
    obtain ⟨hnone, hsome⟩ := ih
    cases hr : cutLast? r with
    | some p =>
      obtain ⟨hbefore, hlongest⟩ := hsome p hr
      have hcut : cutLast? (c :: r) = some (c :: p) := by rw [cutLast?, hr]
      rw [hcut]
      refine ⟨by simp, fun p' hp' => ?_⟩
      obtain rfl := Option.some.inj hp'
      refine ⟨before_cons_cons.2 ⟨rfl, hbefore⟩, fun q hq => ?_⟩
      cases q with
      | nil => exact Nat.zero_le _
      | cons x q => exact Nat.succ_le_succ (hlongest q (before_cons_cons.1 hq).2)
    | none =>
      have hcut : cutLast? (c :: r) = if c = '.' ∨ c = ':' ∧ r.head? = some ':' then some [] else none := by
        rw [cutLast?, hr]
      -- only the empty start can be in front of a separator
      have hstart : ∀ q, Before q (c :: r) → q = [] := by
        intro q hq
        cases q with
        | nil => rfl
        | cons x q => exact absurd (before_cons_cons.1 hq).2 (hnone hr q)
      rw [hcut]
      split
      · rename_i hsep
        refine ⟨by simp, fun p hp => ?_⟩
        obtain rfl := Option.some.inj hp
        exact ⟨before_nil_cons.2 hsep, fun q hq => by rw [hstart q hq]⟩
      · rename_i hsep
        refine ⟨fun _ q hq => ?_, by simp⟩
        rw [hstart q hq] at hq
        exact hsep (before_nil_cons.1 hq)

theorem not_before_of_cutLast? (h : cutLast? cs = none) : ¬Before q cs :=
  (cutLast?_spec cs).1 h q

theorem before_of_cutLast? (h : cutLast? cs = some p) : Before p cs :=
  ((cutLast?_spec cs).2 p h).1

/-- What stands in front of a separator is what is left after cutting at the last one, or in front of a separator
of that. Of three colons in a row the first two and the last two are separators, and only the last two are cut. -/
theorem Before.of_cutLast? (hq : Before q cs) (h : cutLast? cs = some p) (hcolons : ¬[':', ':', ':'] <:+: cs) :
    q = p ∨ Before q p := by
  obtain ⟨hp, hlongest⟩ := (cutLast?_spec cs).2 p h
  have hpre : q <+: p := List.prefix_of_prefix_length_le hq.isPrefix hp.isPrefix (hlongest q hq)
  rcases Nat.lt_or_ge q.length p.length with hlt | hge
  · right
    rcases hq with hdot | hpair
    · exact Or.inl (List.prefix_of_prefix_length_le hdot hp.isPrefix (by simpa using hlt))
    · rcases Nat.lt_or_ge (q.length + 1) p.length with hlt' | hge'
      · refine Or.inr (List.prefix_of_prefix_length_le hpair hp.isPrefix ?_)
        simp only [List.length_append, List.length_cons, List.length_nil]
        omega
      · -- the pair of colons would overlap the separator that is cut
        exfalso
        apply hcolons
        have hpeq : p = q ++ [':'] := by
          have hone : q ++ [':'] <+: cs := List.IsPrefix.trans ⟨[':'], by simp⟩ hpair
          have hle : (q ++ [':']).length ≤ p.length := by simpa using hlt
          refine ((List.prefix_of_prefix_length_le hone hp.isPrefix hle).eq_of_length ?_).symm
          simp only [List.length_append, List.length_singleton]
          omega
        obtain ⟨rest, rfl⟩ := hpair
        subst hpeq
        rcases hp with hp | hp
        · simp [List.append_assoc] at hp
        · obtain ⟨rest', hrest⟩ := hp
          simp only [List.append_assoc, List.append_cancel_left_eq] at hrest
          exact ⟨q, rest', by simpa using hrest⟩
  · exact Or.inl (hpre.eq_of_length (le_antisymm hpre.length_le hge))

/-! ### The way to the root -/

theorem lineageChars_of_none (h : cutLast? cs = none) : lineageChars cs = [cs] := by
  rw [lineageChars]
  split
  · rfl
  · rename_i p hp
    rw [h] at hp
    cases hp

theorem lineageChars_of_some (h : cutLast? cs = some p) : lineageChars cs = cs :: lineageChars p := by
  rw [lineageChars]
  split
  · rename_i hn
    rw [h] at hn
    cases hn
  · rename_i p' hp
    rw [Option.some.inj (h.symm.trans hp)]

/-- Nothing is on the way but what stands in front of a separator. -/
theorem before_of_mem_lineageChars (cs : List Char) :
    ∀ q ∈ lineageChars cs, q = cs ∨ Before q cs := by
  induction cs using lineageChars.induct with
  | case1 cs hcut =>
    rw [lineageChars_of_none hcut]
    exact fun q hq => Or.inl (List.mem_singleton.1 hq)
  | case2 cs p hcut ih =>
    rw [lineageChars_of_some hcut]
    have hp := before_of_cutLast? hcut
    intro q hq
    rcases List.mem_cons.1 hq with rfl | hq
    · exact Or.inl rfl
    · rcases ih q hq with rfl | hbefore
      · exact Or.inr hp
      · exact Or.inr (hbefore.mono hp.isPrefix)

/-- Everything in front of a separator is on the way, if no three colons stand in a row. -/
theorem mem_lineageChars_of_before (cs : List Char) :
    ¬[':', ':', ':'] <:+: cs → ∀ q, q = cs ∨ Before q cs → q ∈ lineageChars cs := by
  induction cs using lineageChars.induct with
  | case1 cs hcut =>
    rw [lineageChars_of_none hcut]
    intro _ q hq
    exact List.mem_singleton.2 (hq.resolve_right (not_before_of_cutLast? hcut))
  | case2 cs p hcut ih =>
    rw [lineageChars_of_some hcut]
    intro hcolons q hq
    rcases hq with rfl | hq
    · exact List.mem_cons_self
    · have hp := (before_of_cutLast? hcut).isPrefix
      exact List.mem_cons_of_mem _
        (ih (fun h => hcolons (h.trans hp.isInfix)) q (hq.of_cutLast? hcut hcolons))

/-- The nearest comes first. -/
theorem pairwise_lineageChars (cs : List Char) :
    (lineageChars cs).Pairwise (fun p q => q.length < p.length) := by
  induction cs using lineageChars.induct with
  | case1 cs hcut =>
    rw [lineageChars_of_none hcut]
    exact List.pairwise_singleton _ _
  | case2 cs p hcut ih =>
    rw [lineageChars_of_some hcut]
    have hp := (before_of_cutLast? hcut).length_lt
    refine List.pairwise_cons.2 ⟨fun q hq => ?_, ih⟩
    rcases before_of_mem_lineageChars p q hq with rfl | hbefore
    · exact hp
    · exact hbefore.length_lt.trans hp

/-- **The way to the root** is what cutting leaves, time after time. -/
theorem getElem?_lineageChars (cs : List Char) :
    ∀ i : Nat, (lineageChars cs)[i]? = (fun x => x.bind cutLast?)^[i] (some cs) := by
  have hend : ∀ i, (fun x => Option.bind x cutLast?)^[i] none = none :=
    fun i => Function.iterate_fixed (f := fun x => Option.bind x cutLast?) rfl i
  induction cs using lineageChars.induct with
  | case1 cs hcut =>
    rw [lineageChars_of_none hcut]
    intro i
    cases i with
    | zero => rfl
    | succ i =>
      rw [Function.iterate_succ_apply, Option.bind_some, hcut, hend]
      rfl
  | case2 cs p hcut ih =>
    rw [lineageChars_of_some hcut]
    intro i
    cases i with
    | zero => rfl
    | succ i =>
      rw [Function.iterate_succ_apply, Option.bind_some, hcut, List.getElem?_cons_succ]
      exact ih i

/-- **Cutting comes to an end**, after at most one cut more than there are letters. -/
theorem walk_ends (cs : List Char) : ∃ n ≤ cs.length + 1, (fun x => x.bind cutLast?)^[n] (some cs) = none := by
  refine ⟨(lineageChars cs).length, ?_, ?_⟩
  · induction cs using lineageChars.induct with
    | case1 cs hcut =>
      rw [lineageChars_of_none hcut, List.length_singleton]
      omega
    | case2 cs p hcut ih =>
      have hp := (before_of_cutLast? hcut).length_lt
      rw [lineageChars_of_some hcut, List.length_cons]
      omega
  · rw [← getElem?_lineageChars]
    exact List.getElem?_eq_none le_rfl

/-! ### Categories -/

variable {target name : String}

theorem above_iff : Above name target ↔ name.toList = target.toList ∨ Before name.toList target.toList := by
  unfold Above Before
  rw [String.toList_inj, String.toList_append, String.toList_append]
  rfl

theorem mem_lineage_iff_chars : name ∈ lineage target ↔ name ≠ "" ∧ name.toList ∈ lineageChars target.toList := by
  unfold lineage
  simp only [List.mem_map, List.mem_filter, Bool.not_eq_true', List.isEmpty_eq_false_iff]
  constructor
  · rintro ⟨cs, ⟨hcs, hne⟩, rfl⟩
    refine ⟨fun h => hne ?_, ?_⟩
    · simpa using congrArg String.toList h
    · simpa using hcs
  · rintro ⟨hne, hmem⟩
    exact ⟨name.toList, ⟨hmem, fun h => hne (String.toList_eq_nil_iff.1 h)⟩, String.ofList_toList⟩

/-- **Nothing else is on the way to the root** than categories that stand above the target. -/
theorem above_of_mem_lineage (h : name ∈ lineage target) : Above name target :=
  above_iff.2 (before_of_mem_lineageChars _ _ (mem_lineage_iff_chars.1 h).2)

/-- **Everything that stands above a target is on the way to the root**, if no three colons stand in a row. -/
theorem mem_lineage_iff (h : ¬HasTripleColon target) : name ∈ lineage target ↔ name ≠ "" ∧ Above name target := by
  rw [mem_lineage_iff_chars, above_iff]
  refine and_congr_right fun _ => ⟨before_of_mem_lineageChars _ _, mem_lineageChars_of_before _ h _⟩

/-- The nearest category comes first, and no two are of one length. -/
theorem pairwise_lineage (target : String) : (lineage target).Pairwise (fun p q => q.length < p.length) := by
  unfold lineage
  rw [List.pairwise_map]
  refine ((pairwise_lineageChars target.toList).filter _).imp fun {p q} h => ?_
  simpa [← String.length_toList] using h

/-- Without three colons in a row in front of it, a pair of colons is where every reader would cut. -/
example : lineage "a::b.c" = ["a::b.c", "a::b", "a"] := by decide +kernel

/-- Of three colons in a row the last two are the separator. -/
example : lineage "a:::b" = ["a:::b", "a:"] ∧ Above "a" "a:::b" := by decide +kernel

end ModuleHost
