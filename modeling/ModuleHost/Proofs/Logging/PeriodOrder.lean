import Mathlib
import ModuleHost.Proofs.Logging.ArchiveName

/-!
# Periods of different rotations

When the rotation of a log changes, there are archives of days, hours and minutes in one directory, and their
periods are still compared as texts.

* `Rotation.rank`: how fine a rotation is. A finer one adds fields at the end of the period.
* `PeriodWithin`: one period lies within another, which is coarser. `Rotation.within_iff`: when that is so.
* `Rotation.lt_iff_within`: **the text of a period goes back only where a coarser period follows a finer one that
  lies within it.**
-/

namespace ModuleHost

open Text.Numeral

theorem lt_append_cons (text more : List Char) (c : Char) : text < text ++ c :: more := by
  have h : text ++ [] < text ++ c :: more := List.append_left_lt (List.nil_lt_cons c more)
  rwa [List.append_nil] at h

/-- A period lies within another: its text goes on with a further field. -/
def PeriodWithin (p q : String) : Prop :=
  q.toList ++ ['-'] <+: p.toList

instance (p q : String) : Decidable (PeriodWithin p q) :=
  inferInstanceAs (Decidable (_ <+: _))

/-- A period that lies within another comes after it. -/
theorem PeriodWithin.lt {p q : String} (h : PeriodWithin p q) : q < p := by
  obtain ⟨rest, hrest⟩ := h
  refine String.lt_iff_toList_lt.2 ?_
  rw [← hrest, List.append_assoc]
  exact lt_append_cons _ _ _

namespace Rotation

variable {r r' : Rotation} {t t' : Instant}

/-- How many fields a rotation adds to the date. -/
def rank : Rotation → Nat
  | .daily => 0
  | .hourly => 1
  | .minutely => 2

/-- **A finer period** begins with the coarser one of the same time. -/
theorem toList_period_of_rank_le (h : r'.rank ≤ r.rank) (t : Instant) :
    ∃ rest, (r.period t).toList = (r'.period t).toList ++ rest ∧
      (r'.rank < r.rank → ∃ more, rest = '-' :: more) := by
  cases r <;> cases r' <;> simp [rank] at h <;> simp [period, rank, toString]

theorem length_period (r : Rotation) (hy : t.FourDigitYear) : (r.period t).toList.length = 10 + 3 * r.rank := by
  obtain ⟨-, -, hh, hmi⟩ := t.localCivil_bounds
  have hdate := congrArg List.length (toList_dateText hy [])
  simp only [List.append_nil, List.length_append, List.length_cons, length_fixed] at hdate
  cases r <;> simp [period, rank, toString, toList_two hh, toList_two hmi, hdate]

/-- **When a period lies within another**: it is a finer one, and the coarser period of its time is the other. -/
theorem within_iff (hy : t.FourDigitYear) (hy' : t'.FourDigitYear) :
    PeriodWithin (r.period t) (r'.period t') ↔ r'.rank < r.rank ∧ r'.period t = r'.period t' := by
  constructor
  · intro h
    have hlength := h.length_le
    rw [List.length_append, List.length_singleton, length_period r' hy', length_period r hy] at hlength
    have hrank : r'.rank < r.rank := by omega
    refine ⟨hrank, ?_⟩
    -- both are the beginning of the finer period, of one length
    obtain ⟨rest, hrest, -⟩ := toList_period_of_rank_le hrank.le t
    have hbegins : (r'.period t').toList <+: (r'.period t).toList :=
      List.prefix_of_prefix_length_le ((List.prefix_append _ _).trans h)
        (by rw [hrest]; exact List.prefix_append _ _) (by rw [length_period r' hy', length_period r' hy])
    exact String.toList_inj.1 (hbegins.eq_of_length (by rw [length_period r' hy', length_period r' hy])).symm
  · rintro ⟨hrank, heq⟩
    obtain ⟨rest, hrest, hmore⟩ := toList_period_of_rank_le hrank.le t
    obtain ⟨more, rfl⟩ := hmore hrank
    unfold PeriodWithin
    rw [hrest, heq]
    exact ⟨more, by simp⟩

/-- **Only a period that lies within a later one comes after it.** -/
theorem lt_iff_within (h : t ≤ t') (hy : t.FourDigitYear) (hy' : t'.FourDigitYear) :
    r'.period t' < r.period t ↔ PeriodWithin (r.period t) (r'.period t') := by
  refine ⟨fun hlt => ?_, PeriodWithin.lt⟩
  by_contra hnot
  refine absurd hlt (not_lt.2 ?_)
  rw [within_iff hy hy', not_and] at hnot
  rcases Nat.lt_or_ge r'.rank r.rank with hrank | hrank
  · -- the coarser period of the earlier time is another, so it is an earlier one, and what follows does not count
    obtain ⟨rest, hrest, -⟩ := toList_period_of_rank_le hrank.le t
    have hbefore : r'.period t < r'.period t' := lt_of_le_of_ne (r'.period_mono h hy hy') (hnot hrank)
    refine le_of_lt (String.lt_iff_toList_lt.2 ?_)
    rw [hrest, ← List.append_nil (r'.period t').toList]
    exact append_lt_append (by rw [length_period r' hy, length_period r' hy']) (String.lt_iff_toList_lt.1 hbefore)
  · obtain ⟨rest, hrest, -⟩ := toList_period_of_rank_le hrank t'
    refine (r.period_mono h hy hy').trans (String.le_iff_toList_le.2 ?_)
    rw [hrest]
    cases rest with
    | nil => rw [List.append_nil]
    | cons c more => exact le_of_lt (lt_append_cons _ _ _)

end Rotation

end ModuleHost
