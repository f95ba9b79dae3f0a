import Mathlib
import ModuleHost.Logging.Archive
import ModuleHost.Proofs.Text.Digits
import ModuleHost.Proofs.Time.Calendar

/-!
# Names of archives

What the name of an archive says, and that later archives have larger keys.

* `Rotation.period_mono`: the texts of periods are in the order in which the local clock shows them.
* `LogName.key?_archive`: the name of an archive is read back as its key. `LogName.archive_injective`: no two keys
  have one name.
* `LogName.key?_text`: the log file's own name is not the name of an archive.
* `LogName.archivesAmong_of_perm`: the archives in a list of names.
* `LogName.nextIndex_cases`: the number of the next one. `LogName.nextIndex_eq_none_iff`: there is none after the
  last.
-/

namespace ModuleHost

open Text.Numeral

/-! ### Periods -/

/-- The local clock shows a year of four digits. -/
def Instant.FourDigitYear (t : Instant) : Prop :=
  0 ≤ t.localCivil.year ∧ t.localCivil.year ≤ 9999

instance (t : Instant) : Decidable t.FourDigitYear :=
  inferInstanceAs (Decidable (_ ∧ _))

/-- The date as fields of fixed width, with what follows. -/
theorem toList_dateText {t : Instant} (h : t.FourDigitYear) (r : List Char) :
    (Instant.dateText t.localCivil).toList ++ r =
      fixed 4 t.localCivil.year.toNat ++ ('-' :: (fixed 2 t.localCivil.month ++
        ('-' :: (fixed 2 t.localCivil.day ++ r)))) := by
  obtain ⟨hm, hd, -, -⟩ := t.localCivil_bounds
  have hy : (Instant.yearText t.localCivil.year).toList = fixed 4 t.localCivil.year.toNat := by
    unfold Instant.yearText
    rw [if_pos (show 0 ≤ t.localCivil.year ∧ t.localCivil.year ≤ 9999 from h),
      toList_padded (by decide) (by have := h.2; omega)]
  unfold Instant.dateText
  simp [toString, hy, toList_two hm, toList_two hd]

namespace Rotation

/-- **Periods do not go back** unless the local clock does. -/
theorem period_mono (r : Rotation) {t t' : Instant} (h : t ≤ t') (hy : t.FourDigitYear)
    (hy' : t'.FourDigitYear) : r.period t ≤ r.period t' := by
  have hmono := Instant.localCivil_mono h
  obtain ⟨-, -, hh, hmi⟩ := t.localCivil_bounds
  obtain ⟨hm', hd', hh', hmi'⟩ := t'.localCivil_bounds
  -- the date counts first; what follows it counts on the same day
  have hdate : ∀ r r' : List Char,
      (t.localCivil.year = t'.localCivil.year → t.localCivil.month = t'.localCivil.month →
        t.localCivil.day = t'.localCivil.day → (t.localCivil.hour < t'.localCivil.hour ∨
          t.localCivil.hour = t'.localCivil.hour ∧ t.localCivil.minute ≤ t'.localCivil.minute) → r ≤ r') →
      (Instant.dateText t.localCivil).toList ++ r ≤ (Instant.dateText t'.localCivil).toList ++ r' := by
    intro r r' hr
    rw [toList_dateText hy, toList_dateText hy']
    refine le_field (by have := hy'.2; omega) ?_
    rcases hmono with hlt | ⟨hyear, hmono⟩
    · left
      have := hy.1
      omega
    refine Or.inr ⟨by rw [hyear], List.cons_le_cons _ (le_field hm' ?_)⟩
    rcases hmono with hlt | ⟨hmonth, hmono⟩
    · exact Or.inl hlt
    refine Or.inr ⟨hmonth, List.cons_le_cons _ (le_field hd' ?_)⟩
    rcases hmono with hlt | ⟨hday, hmono⟩
    · exact Or.inl hlt
    exact Or.inr ⟨hday, hr hyear hmonth hday hmono⟩
  rw [String.le_iff_toList_le]
  cases r with
  | daily =>
    have := hdate [] [] (fun _ _ _ _ => le_refl _)
    simpa [period] using this
  | hourly =>
    have := hdate ('-' :: fixed 2 t.localCivil.hour) ('-' :: fixed 2 t'.localCivil.hour) (by
      intro _ _ _ hlast
      exact List.cons_le_cons _ (fixed_le (by omega) hh'))
    simpa [period, toString, toList_two hh,
      toList_two hh'] using this
  | minutely =>
    have := hdate ('-' :: (fixed 2 t.localCivil.hour ++ ('-' :: fixed 2 t.localCivil.minute)))
      ('-' :: (fixed 2 t'.localCivil.hour ++ ('-' :: fixed 2 t'.localCivil.minute))) (by
        intro _ _ _ hlast
        refine List.cons_le_cons _ (le_field hh' ?_)
        rcases hlast with hlt | ⟨heq, hmin⟩
        · exact Or.inl hlt
        exact Or.inr ⟨heq, List.cons_le_cons _ (fixed_le hmin hmi')⟩)
    simpa [period, toString, toList_two hh,
      toList_two hh', toList_two hmi,
      toList_two hmi'] using this

/-- A period is made of digits, dashes and perhaps a plus sign. -/
theorem not_mem_period (r : Rotation) (t : Instant) {c : Char} (hdigit : c.isDigit = false)
    (hdash : c ≠ '-') (hplus : c ≠ '+') : c ∉ (r.period t).toList := by
  have hpadded : ∀ w n, c ∉ (padded w n).toList := by
    intro w n h
    unfold padded at h
    rw [String.toList_ofList, List.mem_append, List.mem_replicate] at h
    rcases h with ⟨-, rfl⟩ | h
    · cases hdigit
    · exact ne_of_mem_toDigits h hdigit rfl
  have hyear : c ∉ (Instant.yearText t.localCivil.year).toList := by
    unfold Instant.yearText
    split
    · exact hpadded _ _
    · split <;> simp [hpadded, hdash, hplus]
  cases r <;> simp [period, Instant.dateText, toString, hpadded, hyear, hdash]

theorem slash_not_mem_period (r : Rotation) (t : Instant) : '/' ∉ (r.period t).toList :=
  r.not_mem_period t rfl (by decide) (by decide)

/-- Every period has dashes, so it is not a number. -/
theorem dash_mem_period (r : Rotation) (t : Instant) : '-' ∈ (r.period t).toList := by
  cases r <;> simp [period, Instant.dateText, toString]

theorem period_ne_empty (r : Rotation) (t : Instant) : r.period t ≠ "" := by
  intro h
  have := congrArg String.length h
  cases r <;> simp [period, Instant.dateText, toString] at this

end Rotation

/-! ### Keys -/

namespace ArchiveKey

/-- The order of archives, strictly: by period as text, then by number. -/
def Older (a b : ArchiveKey) : Prop :=
  a.period < b.period ∨ a.period = b.period ∧ a.index < b.index

variable {a b c : ArchiveKey}

theorem Older.le (h : Older a b) : a.le b = true := by
  unfold ArchiveKey.le
  rcases h with h | ⟨hp, hi⟩
  · simp [h]
  · simp [hp, UInt64.le_of_lt hi]

theorem Older.ne (h : Older a b) : a ≠ b := by
  rintro rfl
  rcases h with h | ⟨-, h⟩
  · exact lt_irrefl _ h
  · exact UInt64.lt_irrefl _ h

theorem Older.trans (h : Older a b) (h' : Older b c) : Older a c := by
  rcases h with h | ⟨hp, hi⟩ <;> rcases h' with h' | ⟨hp', hi'⟩
  · exact Or.inl (h.trans h')
  · exact Or.inl (hp' ▸ h)
  · exact Or.inl (hp ▸ h')
  · exact Or.inr ⟨hp.trans hp', UInt64.lt_trans hi hi'⟩

/-- Of two keys one is the older. -/
theorem older_total (h : a ≠ b) : a.Older b ∨ b.Older a := by
  rcases lt_trichotomy a.period b.period with hp | hp | hp
  · exact Or.inl (Or.inl hp)
  · rcases lt_trichotomy a.index.toNat b.index.toNat with hi | hi | hi
    · exact Or.inl (Or.inr ⟨hp, UInt64.lt_iff_toNat_lt.2 hi⟩)
    · obtain ⟨p, i⟩ := a
      obtain ⟨q, j⟩ := b
      exact absurd (ArchiveKey.mk.injEq .. ▸ ⟨hp, UInt64.toNat_inj.1 hi⟩) h
    · exact Or.inr (Or.inr ⟨hp.symm, UInt64.lt_iff_toNat_lt.2 hi⟩)
  · exact Or.inr (Or.inl hp)

theorem le_iff : a.le b = true ↔ a.Older b ∨ a = b := by
  obtain ⟨p, i⟩ := a
  obtain ⟨q, j⟩ := b
  simp only [ArchiveKey.le, Older, Bool.or_eq_true, Bool.and_eq_true, decide_eq_true_eq, beq_iff_eq,
    UInt64.le_iff_lt_or_eq, ArchiveKey.mk.injEq]
  tauto

/-- Whatever has keys can be put in their order. -/
theorem pairwise_mergeSort {α : Type} (key : α → ArchiveKey) (as : List α) :
    (as.mergeSort (fun a b => (key a).le (key b))).Pairwise (fun a b => (key a).le (key b) = true) := by
  refine List.pairwise_mergeSort (fun a b c hab hbc => ?_) (fun a b => ?_) _
  · rw [le_iff] at hab hbc ⊢
    rcases hab with hab | hab
    · rcases hbc with hbc | hbc
      · exact Or.inl (hab.trans hbc)
      · exact Or.inl (hbc ▸ hab)
    · exact hab ▸ hbc
  · rw [Bool.or_eq_true, le_iff, le_iff]
    by_cases hab : key a = key b
    · exact Or.inl (Or.inr hab)
    · exact (older_total hab).imp Or.inl Or.inl

/-- **Keys of their own** put things in one order, from the oldest to the newest. -/
theorem exists_older {α : Type} (key : α → ArchiveKey) {as : List α} (h : as.Pairwise (fun a b => key a ≠ key b)) :
    ∃ bs : List α, bs.Perm as ∧ bs.Pairwise (fun a b => (key a).Older (key b)) := by
  have hperm := List.mergeSort_perm as (fun a b => (key a).le (key b))
  have hdistinct := h.perm hperm.symm (fun hab => hab.symm)
  refine ⟨_, hperm, (pairwise_mergeSort key as).imp₂ (fun a b hle hne => ?_) hdistinct⟩
  exact (le_iff.1 hle).resolve_right hne

end ArchiveKey

namespace LogName

variable {n : LogName} {k : ArchiveKey} {name : String} {names : List String}

/-- What ends every name of this log. -/
def ending (n : LogName) : List Char :=
  match n.extension with
  | some ext => '.' :: ext.toList
  | none => []

/-- The log file's own name. -/
def text (n : LogName) : String :=
  String.ofList (n.stem.toList ++ n.ending)

theorem toList_archive (n : LogName) (k : ArchiveKey) :
    (n.archive k).toList =
      n.stem.toList ++ ('.' :: (k.period.toList ++ '.' :: (Nat.toDigits 10 k.index.toNat ++ n.ending))) := by
  cases h : n.extension with
  | none => simp [archive, ending, h, toString]
  | some ext => simp [archive, ending, h, toString]

theorem splitLast?_of_not_mem {mark : Char} {cs : List Char} (h : mark ∉ cs) :
    Text.splitLast? mark cs = none := by
  induction cs with
  | nil => rfl
  | cons c cs ih =>
    rw [List.mem_cons, not_or] at h
    rw [Text.splitLast?, ih h.2]
    exact if_neg (fun hc => h.1 hc.symm)

/-- A text is split at a mark that does not come again. -/
theorem splitLast?_append {mark : Char} (before : List Char) {after : List Char} (h : mark ∉ after) :
    Text.splitLast? mark (before ++ mark :: after) = some (before, after) := by
  induction before with
  | nil => rw [List.nil_append, Text.splitLast?, splitLast?_of_not_mem h]; exact if_pos rfl
  | cons c cs ih => rw [List.cons_append, Text.splitLast?, ih]

/-- The middle of a name, which says the key. -/
theorem key?_of_toList {middle : List Char} (h : name.toList = n.stem.toList ++ '.' :: (middle ++ n.ending)) :
    n.key? name = (Text.splitLast? '.' middle).bind (fun x =>
      if x.1.isEmpty then none else (index? x.2).map (fun i => ⟨String.ofList x.1, i⟩)) := by
  have h1 : Text.stripFront? n.stem.toList name.toList = some ('.' :: (middle ++ n.ending)) :=
    Text.stripFront?_eq_some_iff.2 h
  have h2 : Text.stripFront? ['.'] ('.' :: (middle ++ n.ending)) = some (middle ++ n.ending) :=
    Text.stripFront?_eq_some_iff.2 rfl
  unfold key?
  simp only [h1, h2, Option.bind_eq_bind, Option.bind_some]
  unfold ending
  cases hext : n.extension with
  | none => simp
  | some ext =>
    have h3 : Text.stripBack? ext.toList (middle ++ '.' :: ext.toList) = some (middle ++ ['.']) :=
      Text.stripBack?_eq_some_iff.2 (by simp)
    have h4 : Text.stripBack? ['.'] (middle ++ ['.']) = some middle :=
      Text.stripBack?_eq_some_iff.2 rfl
    simp [h3, h4]

/-- **The name of an archive is read back** as its key. -/
theorem key?_archive (n : LogName) (hk : k.period ≠ "") : n.key? (n.archive k) = some k := by
  have hdot : '.' ∉ Nat.toDigits 10 k.index.toNat := fun h => ne_of_mem_toDigits h rfl rfl
  have hname : (n.archive k).toList = n.stem.toList ++
      '.' :: ((k.period.toList ++ '.' :: Nat.toDigits 10 k.index.toNat) ++ n.ending) := by
    rw [toList_archive]
    simp
  -- the digits have no dot, so the last dot is the one before them
  rw [key?_of_toList hname, splitLast?_append _ hdot, Option.bind_some]
  have hne : k.period.toList.isEmpty = false := by
    simpa using hk
  simp only [hne]
  have hindex : index? (Nat.toDigits 10 k.index.toNat) = some k.index := by
    unfold index?
    rw [word?_toDigits k.index.toNat_lt]
    simp
  rw [hindex]
  simp

/-- **Archives with keys of their own have names of their own.** -/
theorem archive_injective (n : LogName) : Function.Injective n.archive := by
  rintro ⟨p, i⟩ ⟨q, j⟩ heq
  have hnames := congrArg String.toList heq
  rw [toList_archive, toList_archive, List.append_right_inj, List.cons.injEq, ← List.cons_append,
    ← List.cons_append, ← List.append_assoc, ← List.append_assoc, List.append_left_inj] at hnames
  -- both are split at the dot before their digits
  have hdigits (i : UInt64) : '.' ∉ Nat.toDigits 10 i.toNat := fun h => ne_of_mem_toDigits h rfl rfl
  have hsplit := splitLast?_append p.toList (hdigits i)
  rw [hnames.2, splitLast?_append q.toList (hdigits j), Option.some.injEq, Prod.mk.injEq] at hsplit
  have hindex := congrArg (fun ds => Nat.ofDigitChars 10 ds 0) hsplit.2
  simp only [Nat.ofDigitChars_ten_toDigits] at hindex
  rw [ArchiveKey.mk.injEq]
  exact ⟨String.toList_injective hsplit.1.symm, UInt64.toNat_inj.1 hindex.symm⟩

/-- **The log file's own name** is no archive's. -/
theorem key?_text (n : LogName) : n.key? n.text = none := by
  unfold key?
  cases h : n.extension with
  | none =>
    have h1 : Text.stripFront? n.stem.toList n.text.toList = some [] :=
      Text.stripFront?_eq_some_iff.2 (by simp [text, ending, h])
    simp [h1, Text.stripFront?]
  | some ext =>
    have h1 : Text.stripFront? n.stem.toList n.text.toList = some ('.' :: ext.toList) :=
      Text.stripFront?_eq_some_iff.2 (by simp [text, ending, h])
    have h2 : Text.stripFront? ['.'] ('.' :: ext.toList) = some ext.toList :=
      Text.stripFront?_eq_some_iff.2 rfl
    have h3 : Text.stripBack? ext.toList ext.toList = some [] :=
      Text.stripBack?_eq_some_iff.2 rfl
    have h4 : Text.stripBack? ['.'] [] = none := rfl
    simp [h1, h2, h3, h4]

/-! ### Archives among names -/

/-- The names that are archives' names, with their keys. -/
def keyed (n : LogName) (names : List String) : List (ArchiveKey × String) :=
  names.filterMap (fun name => (n.key? name).map (fun k => (k, name)))

/-- **Names with keys of their own** are listed in the order of these. -/
theorem archivesAmong_of_perm {as : List (ArchiveKey × String)} (hperm : as.Perm (n.keyed names))
    (h : as.Pairwise (fun a b => a.1.Older b.1)) : n.archivesAmong names = as := by
  have hsorted : (n.archivesAmong names).Pairwise (fun a b => a.1.le b.1 = true) :=
    ArchiveKey.pairwise_mergeSort Prod.fst _
  have hsame : (n.archivesAmong names).Perm as := (List.mergeSort_perm _ _).trans hperm.symm
  have hdistinct : (as.map (·.1)).Nodup := List.pairwise_map.2 (h.imp (fun hab => hab.ne))
  refine hsame.eq_of_pairwise (fun a b ha hb hab hba => ?_) hsorted (h.imp (fun hab => hab.le))
  refine List.inj_on_of_nodup_map hdistinct (hsame.mem_iff.1 ha) hb ?_
  rcases ArchiveKey.le_iff.1 hab with hab | hab
  · rcases ArchiveKey.le_iff.1 hba with hba | hba
    · exact absurd rfl (hab.trans hba).ne
    · exact hba.symm
  · exact hab

theorem mem_archivesAmong {a : ArchiveKey × String} :
    a ∈ n.archivesAmong names ↔ a ∈ n.keyed names :=
  List.mem_mergeSort

theorem largest?_spec (is : List UInt64) :
    (largest? is = none ∧ is = []) ∨ ∃ i ∈ is, largest? is = some i ∧ ∀ j ∈ is, j ≤ i := by
  induction is with
  | nil => exact Or.inl ⟨rfl, rfl⟩
  | cons i is ih =>
    right
    unfold largest?
    rcases ih with ⟨hn, rfl⟩ | ⟨m, hm, hl, hle⟩
    · rw [hn]
      exact ⟨i, by simp, rfl, by simp⟩
    · rw [hl]
      by_cases him : i < m
      · refine ⟨m, by simp [hm], by simp [him], fun j hj => ?_⟩
        rcases List.mem_cons.1 hj with rfl | hj
        · exact UInt64.le_of_lt him
        · exact hle j hj
      · refine ⟨i, by simp, by simp [him], fun j hj => ?_⟩
        rcases List.mem_cons.1 hj with rfl | hj
        · exact UInt64.le_refl _
        · exact UInt64.le_trans (hle j hj) (UInt64.not_lt.1 him)

/-- **A number is taken** in a period: some name is that of an archive with it. -/
def HasNumber (n : LogName) (period : String) (names : List String) (i : UInt64) : Prop :=
  ∃ name ∈ names, n.key? name = some ⟨period, i⟩

theorem hasNumber_iff {period : String} {i : UInt64} :
    n.HasNumber period names i ↔ ∃ a ∈ n.keyed names, a.1.period = period ∧ a.1.index = i := by
  constructor
  · rintro ⟨name, hname, hkey⟩
    exact ⟨(⟨period, i⟩, name), List.mem_filterMap.2 ⟨name, hname, by rw [hkey]; rfl⟩, rfl, rfl⟩
  · rintro ⟨⟨k, y⟩, ha, rfl, rfl⟩
    obtain ⟨name, hname, hkey⟩ := List.mem_filterMap.1 ha
    obtain ⟨k', hk', heq⟩ := Option.map_eq_some_iff.1 hkey
    cases heq
    exact ⟨y, hname, hk'⟩

theorem mem_numbers {period : String} {i : UInt64} :
    i ∈ n.numbers period names ↔ n.HasNumber period names i := by
  unfold numbers
  simp only [List.mem_map, List.mem_filter, mem_archivesAmong, hasNumber_iff, beq_iff_eq, and_assoc]

theorem toNat_le_lastIndex (i : UInt64) : i.toNat ≤ lastIndex.toNat :=
  Nat.le_of_lt_succ i.toNat_lt

/-- The number after another, short of the last 64-bit word. -/
theorem toNat_add_one {i : UInt64} (h : i ≠ lastIndex) : (i + 1).toNat = i.toNat + 1 := by
  have hne : i.toNat ≠ lastIndex.toNat := fun heq => h (UInt64.toNat_inj.1 heq)
  have hlt : i.toNat < lastIndex.toNat := lt_of_le_of_ne (toNat_le_lastIndex i) hne
  rw [UInt64.toNat_add, UInt64.toNat_one]
  exact Nat.mod_eq_of_lt (Nat.succ_lt_succ hlt)

/-- The numbers after some, all together: there are none if the last one is among them. -/
theorem mapM_successor? (is : List UInt64) :
    is.mapM successor? = if lastIndex ∈ is then none else some (is.map (· + 1)) := by
  induction is with
  | nil => rfl
  | cons i is ih =>
    rw [List.mapM_cons, ih, successor?]
    by_cases hi : i = lastIndex
    · simp [hi]
    · by_cases his : lastIndex ∈ is
      · simp [hi, his]
      · simp [hi, his, Ne.symm hi]

/-- **There is no next number** exactly if the last one is taken. -/
theorem nextIndex_eq_none_iff {period : String} :
    n.nextIndex period names = none ↔ n.HasNumber period names lastIndex := by
  unfold nextIndex
  rw [mapM_successor?, ← mem_numbers]
  split <;> simp [*]

/-- **The next number** is zero in a period without archives, and otherwise the one after the largest that is
taken. -/
theorem nextIndex_cases {period : String} {index : UInt64} (h : n.nextIndex period names = some index) :
    (index = 0 ∧ ∀ i, ¬ n.HasNumber period names i) ∨
      ∃ i, n.HasNumber period names i ∧ index.toNat = i.toNat + 1 ∧
        ∀ j, n.HasNumber period names j → j.toNat ≤ i.toNat := by
  have hlast : ¬ n.HasNumber period names lastIndex := fun hlast => by
    rw [nextIndex_eq_none_iff.2 hlast] at h
    cases h
  -- the number after one that is taken is no overflow
  have hsucc {i : UInt64} (hi : n.HasNumber period names i) : (i + 1).toNat = i.toNat + 1 :=
    toNat_add_one fun heq => hlast (heq ▸ hi)
  unfold nextIndex at h
  rw [mapM_successor?, if_neg (fun hmem => hlast (mem_numbers.1 hmem)), Option.map_some] at h
  obtain rfl := Option.some.inj h
  rcases largest?_spec ((n.numbers period names).map (· + 1)) with ⟨hl, hnil⟩ | ⟨k, hk, hl, hle⟩
  · rw [hl]
    refine Or.inl ⟨rfl, fun i hi => ?_⟩
    have hmem := mem_numbers.2 hi
    rw [List.map_eq_nil_iff.1 hnil] at hmem
    cases hmem
  · rw [hl]
    obtain ⟨i, hi, rfl⟩ := List.mem_map.1 hk
    have hi := mem_numbers.1 hi
    refine Or.inr ⟨i, hi, hsucc hi, fun j hj => ?_⟩
    have hji := UInt64.le_iff_toNat_le.1 (hle _ (List.mem_map_of_mem (mem_numbers.2 hj)))
    rw [hsucc hj, hsucc hi] at hji
    exact Nat.le_of_succ_le_succ hji

/-- **The next number is above all that are taken.** -/
theorem lt_of_nextIndex {period : String} {index i : UInt64} (h : n.nextIndex period names = some index)
    (hi : n.HasNumber period names i) : i < index := by
  rcases nextIndex_cases h with ⟨-, hnone⟩ | ⟨j, -, hnext, hle⟩
  · exact (hnone i hi).elim
  · have := hle i hi
    exact UInt64.lt_iff_toNat_lt.2 (by omega)

/-- **There is a next number** in a period whose numbers are all below `m`, and it is `m` at the most. -/
theorem exists_nextIndex {period : String} {m : Nat} (hm : m < UInt64.size)
    (h : ∀ i, n.HasNumber period names i → i.toNat < m) :
    ∃ index, n.nextIndex period names = some index ∧ index.toNat ≤ m := by
  cases hnext : n.nextIndex period names with
  | none =>
    have hlast := h _ (nextIndex_eq_none_iff.1 hnext)
    exact absurd hlast (not_lt.2 (Nat.le_of_lt_succ hm))
  | some index =>
    refine ⟨index, rfl, ?_⟩
    rcases nextIndex_cases hnext with ⟨rfl, -⟩ | ⟨i, hi, hindex, -⟩
    · exact Nat.zero_le m
    · have := h i hi
      omega

end LogName

end ModuleHost
