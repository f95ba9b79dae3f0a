import Mathlib
import ModuleHost.Time.Instant

/-!
# The calendar goes forward

While the local clock goes forward, so do its dates. The calendar counts years from March in eras of 400 years, so
the order is found in three steps: the year within the era, the month within the year, the day.

* `Instant.yearOfEra_spec`: the year that a day of an era is in.
* `Instant.localCivil_mono`: **the date and the time of day do not go back unless the local clock does.**
-/

namespace ModuleHost

/-- **What the local clock shows** at one point in time is not after what it shows at another. While the offset
stays the same this is the order of time. Where the clock is put back, a later point in time comes before an
earlier one. -/
instance : LE Instant where
  le t t' := t.localSeconds < t'.localSeconds ∨ t.localSeconds = t'.localSeconds ∧ t.nanos ≤ t'.nanos

instance (t t' : Instant) : Decidable (t ≤ t') :=
  inferInstanceAs (Decidable (t.localSeconds < t'.localSeconds ∨ t.localSeconds = t'.localSeconds ∧
    t.nanos ≤ t'.nanos))

/-- A calendar date, with hour and minute, that is not after another. -/
def Civil.NotAfter (c c' : Civil) : Prop :=
  c.year < c'.year ∨ c.year = c'.year ∧ (c.month < c'.month ∨ c.month = c'.month ∧
    (c.day < c'.day ∨ c.day = c'.day ∧ (c.hour < c'.hour ∨ c.hour = c'.hour ∧ c.minute ≤ c'.minute)))

namespace Instant

theorem le_refl (t : Instant) : t ≤ t :=
  Or.inr ⟨rfl, Nat.le_refl _⟩

theorem le_trans {t t' t'' : Instant} (h : t ≤ t') (h' : t' ≤ t'') : t ≤ t'' := by
  show t.localSeconds < t''.localSeconds ∨ t.localSeconds = t''.localSeconds ∧ t.nanos ≤ t''.nanos
  rcases h with h | ⟨h, hn⟩ <;> rcases h' with h' | ⟨h', hn'⟩ <;> omega

theorem localSeconds_le {t t' : Instant} (h : t ≤ t') : t.localSeconds ≤ t'.localSeconds := by
  rcases h with h | ⟨h, -⟩
  · exact le_of_lt h
  · exact le_of_eq h

/-! ### Years of an era -/

/-- The days of an era. -/
def eraDays : Nat := 146097

/-- The year within its era of a day within its era. -/
def yearOfEra (doe : Nat) : Nat :=
  (doe - doe / 1460 + doe / 36524 - doe / 146096) / 365

/-- The first day of a year within its era. -/
def yearStart (y : Nat) : Nat :=
  365 * y + y / 4 - y / 100

theorem yearOfEra_mono {a b : Nat} (h : a ≤ b) : yearOfEra a ≤ yearOfEra b := by
  refine monotone_nat_of_le_succ (fun n => ?_) h
  unfold yearOfEra
  refine Nat.div_le_div_right ?_
  omega

/-- At both ends of a year the year is what it should be. -/
theorem yearOfEra_ends :
    ∀ y < 400, yearOfEra (yearStart y) = y ∧ (y < 399 → yearOfEra (yearStart (y + 1) - 1) = y) := by
  decide +kernel

/-- **The year of a day**: the day is not before the year's first, and before the first of the next.
The last year of an era is a day longer than the next year's first day says. -/
theorem yearOfEra_spec {doe : Nat} (h : doe < eraDays) :
    yearOfEra doe < 400 ∧ yearStart (yearOfEra doe) ≤ doe ∧
      (yearOfEra doe < 399 → doe < yearStart (yearOfEra doe + 1)) := by
  have hlast : yearOfEra 146096 = 399 := by decide
  have hlt : yearOfEra doe < 400 := by
    have : yearOfEra doe ≤ yearOfEra 146096 := yearOfEra_mono (by unfold eraDays at h; omega)
    omega
  refine ⟨hlt, ?_, ?_⟩
  · -- a day before its year's first is in the year before
    by_contra hbefore
    obtain ⟨y, hy⟩ : ∃ y, yearOfEra doe = y + 1 := by
      refine Nat.exists_eq_succ_of_ne_zero (fun h0 => hbefore ?_)
      rw [h0]
      exact Nat.zero_le _
    have hend := (yearOfEra_ends y (by omega)).2 (by omega)
    have hmono : yearOfEra doe ≤ yearOfEra (yearStart (y + 1) - 1) := yearOfEra_mono (by rw [← hy]; omega)
    omega
  · -- a day after its year's last is in the year after
    intro h399
    by_contra hafter
    have hstart := (yearOfEra_ends (yearOfEra doe + 1) (by omega)).1
    have hmono := yearOfEra_mono (Nat.le_of_not_lt hafter)
    omega

/-- The day within its year. -/
def dayOfYear (doe : Nat) : Nat :=
  doe - yearStart (yearOfEra doe)

theorem dayOfYear_lt {doe : Nat} (h : doe < eraDays) : dayOfYear doe < 366 := by
  obtain ⟨hlt, -, hnext⟩ := yearOfEra_spec h
  unfold dayOfYear
  rcases Nat.lt_or_ge (yearOfEra doe) 399 with h399 | h399
  · have := hnext h399
    unfold yearStart at this ⊢
    omega
  · have : yearOfEra doe = 399 := by omega
    rw [this]
    unfold eraDays at h
    unfold yearStart
    omega

/-- A later day of an era is in a later year, or later in the same. -/
theorem year_or_day_lt {a b : Nat} (h : a < b) (hb : b < eraDays) :
    yearOfEra a < yearOfEra b ∨ yearOfEra a = yearOfEra b ∧ dayOfYear a < dayOfYear b := by
  rcases Nat.lt_or_eq_of_le (yearOfEra_mono h.le) with hlt | heq
  · exact Or.inl hlt
  · refine Or.inr ⟨heq, ?_⟩
    have hstart := (yearOfEra_spec (h.trans hb)).2.1
    unfold dayOfYear
    rw [← heq]
    omega

/-! ### Months and days of a year -/

/-- The month within a year that starts in March. -/
def marchMonth (doy : Nat) : Nat :=
  (5 * doy + 2) / 153

/-- The day within its month, counted from one. -/
def dayOfMonth (doy : Nat) : Nat :=
  doy - (153 * marchMonth doy + 2) / 5 + 1

theorem marchMonth_lt {doy : Nat} (h : doy < 366) : marchMonth doy < 12 := by
  unfold marchMonth
  omega

theorem dayOfMonth_lt {doy : Nat} : dayOfMonth doy < 32 := by
  unfold dayOfMonth marchMonth
  omega

theorem month_or_day_lt {a b : Nat} (h : a < b) :
    marchMonth a < marchMonth b ∨ marchMonth a = marchMonth b ∧ dayOfMonth a < dayOfMonth b := by
  have hle : marchMonth a ≤ marchMonth b := Nat.div_le_div_right (by omega)
  rcases Nat.lt_or_eq_of_le hle with hlt | heq
  · exact Or.inl hlt
  · refine Or.inr ⟨heq, ?_⟩
    unfold dayOfMonth
    rw [← heq]
    have : (153 * marchMonth a + 2) / 5 ≤ a := by
      unfold marchMonth
      omega
    omega

/-! ### Dates -/

/-- The era of a day that is counted from 1 January 1970, and the day within it. -/
def eraOf (day : Int) : Int × Nat :=
  ((day + 719468).fdiv 146097, ((day + 719468).emod 146097).toNat)

/-- A date in terms of its year from March, its month and its day. -/
theorem dateOfDay_eq (day : Int) :
    dateOfDay day =
      (let doy := dayOfYear (eraOf day).2
       let y := (yearOfEra (eraOf day).2 : Int) + (eraOf day).1 * 400
       let m := if marchMonth doy < 10 then marchMonth doy + 3 else marchMonth doy - 9
       (if m ≤ 2 then y + 1 else y, m, dayOfMonth doy)) := rfl

theorem eraOf_lt (day : Int) : (eraOf day).2 < eraDays := by
  show ((day + 719468) % 146097).toNat < 146097
  omega

theorem eraOf_mono {a b : Int} (h : a < b) :
    (eraOf a).1 < (eraOf b).1 ∨ (eraOf a).1 = (eraOf b).1 ∧ (eraOf a).2 < (eraOf b).2 := by
  unfold eraOf
  rw [Int.fdiv_eq_ediv_of_nonneg _ (by decide), Int.fdiv_eq_ediv_of_nonneg _ (by decide)]
  show _ ∨ _ ∧ ((a + 719468) % 146097).toNat < ((b + 719468) % 146097).toNat
  omega

/-- **Later days have later dates.** -/
theorem dateOfDay_lt {a b : Int} (h : a < b) :
    (dateOfDay a).1 < (dateOfDay b).1 ∨ (dateOfDay a).1 = (dateOfDay b).1 ∧
      ((dateOfDay a).2.1 < (dateOfDay b).2.1 ∨
        (dateOfDay a).2.1 = (dateOfDay b).2.1 ∧ (dateOfDay a).2.2 < (dateOfDay b).2.2) := by
  have hya := (yearOfEra_spec (eraOf_lt a)).1
  have hyb := (yearOfEra_spec (eraOf_lt b)).1
  have hma := marchMonth_lt (dayOfYear_lt (eraOf_lt a))
  have hmb := marchMonth_lt (dayOfYear_lt (eraOf_lt b))
  -- the years from March, and within one year the months and days, are in order
  have hkey : (yearOfEra (eraOf a).2 : Int) + (eraOf a).1 * 400 <
        (yearOfEra (eraOf b).2 : Int) + (eraOf b).1 * 400 ∨
      (yearOfEra (eraOf a).2 : Int) + (eraOf a).1 * 400 =
        (yearOfEra (eraOf b).2 : Int) + (eraOf b).1 * 400 ∧
      (marchMonth (dayOfYear (eraOf a).2) < marchMonth (dayOfYear (eraOf b).2) ∨
        marchMonth (dayOfYear (eraOf a).2) = marchMonth (dayOfYear (eraOf b).2) ∧
          dayOfMonth (dayOfYear (eraOf a).2) < dayOfMonth (dayOfYear (eraOf b).2)) := by
    rcases eraOf_mono h with hera | ⟨hera, hday⟩
    · left
      omega
    · rcases year_or_day_lt hday (eraOf_lt b) with hy | ⟨hy, hdoy⟩
      · left
        omega
      · exact Or.inr ⟨by rw [hera, hy], month_or_day_lt hdoy⟩
  simp only [dateOfDay_eq]
  split <;> split <;> split <;> split <;> omega

/-- The fields of a date are small. -/
theorem dateOfDay_bounds (day : Int) :
    1 ≤ (dateOfDay day).2.1 ∧ (dateOfDay day).2.1 ≤ 12 ∧ (dateOfDay day).2.2 < 32 := by
  have hm := marchMonth_lt (dayOfYear_lt (eraOf_lt day))
  have hd : dayOfMonth (dayOfYear (eraOf day).2) < 32 := dayOfMonth_lt
  simp only [dateOfDay_eq]
  split <;> omega

/-! ### Points in time -/

/-- **The calendar goes forward** with the seconds that are counted. -/
theorem civilAt_mono {s s' : Int} (h : s ≤ s') : (civilAt s).NotAfter (civilAt s') := by
  have hday : s.fdiv 86400 < s'.fdiv 86400 ∨
      s.fdiv 86400 = s'.fdiv 86400 ∧ (s.emod 86400).toNat ≤ (s'.emod 86400).toNat := by
    rw [Int.fdiv_eq_ediv_of_nonneg _ (by decide), Int.fdiv_eq_ediv_of_nonneg _ (by decide)]
    show _ ∨ _ ∧ (s % 86400).toNat ≤ (s' % 86400).toNat
    omega
  unfold civilAt Civil.NotAfter
  rcases hday with hday | ⟨hday, hsec⟩
  · rcases dateOfDay_lt hday with hy | ⟨hy, hm | ⟨hm, hd⟩⟩
    · exact Or.inl hy
    · exact Or.inr ⟨hy, Or.inl hm⟩
    · exact Or.inr ⟨hy, Or.inr ⟨hm, Or.inl hd⟩⟩
  · rw [hday]
    refine Or.inr ⟨rfl, Or.inr ⟨rfl, Or.inr ⟨rfl, ?_⟩⟩⟩
    simp only
    omega

/-- **The calendar goes back only where the local clock does.** -/
theorem localCivil_mono {t t' : Instant} (h : t ≤ t') : t.localCivil.NotAfter t'.localCivil :=
  civilAt_mono (localSeconds_le h)

/-- The fields of a calendar date and a time of day each have two digits at most. -/
theorem civilAt_bounds (s : Int) :
    (civilAt s).month < 100 ∧ (civilAt s).day < 100 ∧ (civilAt s).hour < 100 ∧ (civilAt s).minute < 100 := by
  obtain ⟨-, hm, hd⟩ := dateOfDay_bounds (s.fdiv 86400)
  have hs : (s % 86400).toNat < 86400 := by omega
  refine ⟨?_, ?_, ?_, ?_⟩
  · show (dateOfDay (s.fdiv 86400)).2.1 < 100
    omega
  · show (dateOfDay (s.fdiv 86400)).2.2 < 100
    omega
  · show (s % 86400).toNat / 3600 < 100
    omega
  · show (s % 86400).toNat / 60 % 60 < 100
    omega

theorem localCivil_bounds (t : Instant) :
    t.localCivil.month < 100 ∧ t.localCivil.day < 100 ∧ t.localCivil.hour < 100 ∧ t.localCivil.minute < 100 :=
  civilAt_bounds t.localSeconds

end Instant

end ModuleHost
