import Mathlib
import ModuleHost.Text.Numeral

/-!
# Digits

How a number looks in decimal, and how such texts compare.

* `Numeral.read?_eq_some_iff`: **runs of digits**, leading zeros included, are read as the numbers they stand for.
* `Numeral.word?_toDigits`: a number is read back from its digits.
* `Numeral.le_field`: **texts made of fields of fixed width compare as the numbers in the fields**, field
  by field.
-/

namespace ModuleHost.Text.Numeral

/-! ### Runs of digits -/

/-- **A run of digits** and the number that it stands for. A digit after a run adds a decimal place. -/
inductive Run : List Char → Nat → Prop
  | one {d : Nat} (hd : d < 10) : Run [d.digitChar] d
  | more {cs : List Char} {v d : Nat} (hcs : Run cs v) (hd : d < 10) : Run (cs ++ [d.digitChar]) (10 * v + d)

theorem digitChar_of_isDigit {c : Char} (h : c.isDigit = true) :
    c.toNat - 48 < 10 ∧ (c.toNat - 48).digitChar = c := by
  obtain ⟨hlow, hhigh⟩ := Char.isDigit_iff_toNat.1 h
  have h0 : '0'.toNat = 48 := rfl
  have h9 : '9'.toNat = 57 := rfl
  have hlt : c.toNat - 48 < 10 := by omega
  refine ⟨hlt, Char.toNat_inj.1 ?_⟩
  rw [Nat.toNat_digitChar_of_lt_ten hlt]
  omega

theorem Run.isDigit {cs : List Char} {v : Nat} (h : Run cs v) : ∀ c ∈ cs, c.isDigit = true := by
  have hdigit {d : Nat} (hd : d < 10) : d.digitChar.isDigit = true := by
    rw [Nat.isDigit_digitChar, decide_eq_true hd]
  induction h with
  | one hd => simpa using hdigit hd
  | more hcs hd ih =>
    intro c hc
    rcases List.mem_append.1 hc with hc | hc
    · exact ih c hc
    · rw [List.mem_singleton.1 hc]
      exact hdigit hd

theorem Run.ne_nil {cs : List Char} {v : Nat} (h : Run cs v) : cs ≠ [] := by
  cases h <;> simp

theorem Run.value {cs : List Char} {v : Nat} (h : Run cs v) : Nat.ofDigitChars 10 cs 0 = v := by
  induction h with
  | one hd =>
    rw [Nat.ofDigitChars_cons, Nat.toNat_digitChar_of_lt_ten hd]
    simp
  | more hcs hd ih =>
    rw [Nat.ofDigitChars_append, ih, Nat.ofDigitChars_cons, Nat.toNat_digitChar_of_lt_ten hd]
    simp

/-- Digits that follow one another are a run. -/
theorem run_of_isDigit {cs : List Char} (hne : cs ≠ []) (h : ∀ c ∈ cs, c.isDigit = true) :
    Run cs (Nat.ofDigitChars 10 cs 0) := by
  -- from the front to the last digit, as the number grows
  induction cs using List.reverseRecOn with
  | nil => exact absurd rfl hne
  | append_singleton cs c ih =>
    obtain ⟨hlt, hc⟩ := digitChar_of_isDigit (h c (by simp))
    rw [Nat.ofDigitChars_append, Nat.ofDigitChars_cons, Nat.ofDigitChars_nil]
    cases hcs : cs with
    | nil =>
      have hone := Run.one hlt
      rw [hc] at hone
      simpa using hone
    | cons e es =>
      have hmore := Run.more (ih (by simp [hcs]) (fun e he => h e (List.mem_append_left _ he))) hlt
      rw [hc] at hmore
      exact hcs ▸ hmore

/-- **Runs of digits are read**, and nothing else, as the numbers that they stand for. -/
theorem read?_eq_some_iff {cs : List Char} {v : Nat} : read? cs = some v ↔ Run cs v := by
  unfold read?
  constructor
  · intro h
    split at h
    · cases h
    · rename_i hdigits
      rw [Bool.or_eq_true, not_or] at hdigits
      obtain rfl := Option.some.inj h
      exact run_of_isDigit (by simpa using hdigits.1) (List.all_eq_true.1 (by simpa using hdigits.2))
  · intro h
    rw [List.all_eq_true.2 h.isDigit, h.value]
    simpa using h.ne_nil

/-! ### Reading back -/

theorem ne_of_mem_toDigits {c d : Char} {n : Nat} (hc : c ∈ Nat.toDigits 10 n)
    (hd : d.isDigit = false) : c ≠ d := by
  rintro rfl
  rw [Nat.isDigit_of_mem_toDigits (by decide) (by decide) hc] at hd
  cases hd

theorem read?_toDigits (n : Nat) : read? (Nat.toDigits 10 n) = some n := by
  have hall : (Nat.toDigits 10 n).all Char.isDigit = true :=
    List.all_eq_true.2 (fun c hc => Nat.isDigit_of_mem_toDigits (by decide) (by decide) hc)
  unfold read?
  rw [hall, Nat.ofDigitChars_ten_toDigits]
  simp

/-- **A number below the bound** is read back from its digits. -/
theorem word?_toDigits {bound n : Nat} (h : n < bound) : word? bound (Nat.toDigits 10 n) = some n := by
  have hplus : ∀ r, Nat.toDigits 10 n ≠ '+' :: r := by
    intro r hr
    exact ne_of_mem_toDigits (d := '+') (n := n) (by rw [hr]; exact List.mem_cons_self) rfl rfl
  unfold word?
  split
  · rename_i r hr
    exact (hplus r hr).elim
  · simp only [read?_toDigits]
    simpa using h

/-! ### Fixed width -/

/-- The last `width` digits. -/
def fixed : Nat → Nat → List Char
  | 0, _ => []
  | width + 1, n => fixed width (n / 10) ++ [(n % 10).digitChar]

@[simp]
theorem length_fixed (width n : Nat) : (fixed width n).length = width := by
  induction width generalizing n with
  | zero => rfl
  | succ w ih => simp [fixed, ih]

theorem fixed_zero (width : Nat) : fixed width 0 = List.replicate width '0' := by
  induction width with
  | zero => rfl
  | succ w ih => rw [fixed, ih, List.replicate_succ']; rfl

/-- A number that fits its width is padded to it. -/
theorem toList_padded {width n : Nat} (hw : 0 < width) (h : n < 10 ^ width) :
    (padded width n).toList = fixed width n := by
  have key : ∀ w n, 0 < w → n < 10 ^ w →
      List.replicate (w - (Nat.toDigits 10 n).length) '0' ++ Nat.toDigits 10 n = fixed w n := by
    intro w
    induction w with
    | zero => intro n hw; omega
    | succ w ih =>
      intro n _ hn
      rw [Nat.toDigits_eq_if (by decide)]
      split
      · rename_i hlt
        have hdiv : n / 10 = 0 := by omega
        have hmod : n % 10 = n := by omega
        rw [fixed, hdiv, hmod, fixed_zero]
        rfl
      · rename_i hge
        have hw : 0 < w := by
          rcases Nat.eq_zero_or_pos w with rfl | hw
          · omega
          · exact hw
        have hn' : n / 10 < 10 ^ w := by
          rw [Nat.pow_succ] at hn
          omega
        -- the digits before the last are those of a tenth, in one place less
        rw [fixed, ← ih (n / 10) hw hn', List.length_append, List.length_singleton,
          Nat.add_sub_add_right, List.append_assoc]
  unfold padded
  rw [String.toList_ofList]
  exact key width n hw h

theorem toList_two {n : Nat} (h : n < 100) : (padded 2 n).toList = fixed 2 n :=
  toList_padded (by decide) h

/-! ### Order -/

theorem append_lt_append {l l' r r' : List Char} (hlen : l.length = l'.length) (h : l < l') :
    l ++ r < l' ++ r' := by
  induction l generalizing l' with
  | nil =>
    cases l' with
    | nil => cases h
    | cons c l' => cases hlen
  | cons c l ih =>
    cases l' with
    | nil => cases hlen
    | cons c' l' =>
      rw [List.cons_append, List.cons_append, List.cons_lt_cons_iff]
      rcases List.cons_lt_cons_iff.1 h with hc | ⟨rfl, hl⟩
      · exact Or.inl hc
      · exact Or.inr ⟨rfl, ih (by simpa using hlen) hl⟩

theorem digitChar_lt {a b : Nat} (h : a < b) (hb : b < 10) : a.digitChar < b.digitChar := by
  have key : ∀ b < 10, ∀ a < b, a.digitChar < b.digitChar := by decide
  exact key b hb a h

theorem fixed_lt {width a b : Nat} (h : a < b) (hb : b < 10 ^ width) :
    fixed width a < fixed width b := by
  induction width generalizing a b with
  | zero => simp at hb; omega
  | succ w ih =>
    rw [Nat.pow_succ] at hb
    rw [fixed, fixed]
    rcases Nat.lt_or_ge (a / 10) (b / 10) with hlt | hge
    · exact append_lt_append (by simp) (ih hlt (by omega))
    · have hdiv : a / 10 = b / 10 := by omega
      rw [hdiv]
      refine List.append_left_lt (List.cons_lt_cons_iff.2 (Or.inl ?_))
      exact digitChar_lt (by omega) (by omega)

theorem fixed_le {width a b : Nat} (h : a ≤ b) (hb : b < 10 ^ width) :
    fixed width a ≤ fixed width b := by
  rcases Nat.lt_or_eq_of_le h with h | rfl
  · exact le_of_lt (fixed_lt h hb)
  · exact le_refl _

/-- **A field and what follows it**: the field counts first. -/
theorem le_field {width a b : Nat} {r r' : List Char} (hb : b < 10 ^ width)
    (h : a < b ∨ a = b ∧ r ≤ r') : fixed width a ++ r ≤ fixed width b ++ r' := by
  rcases h with h | ⟨rfl, h⟩
  · exact le_of_lt (append_lt_append (by simp) (fixed_lt h hb))
  · rcases lt_or_eq_of_le h with h | rfl
    · exact le_of_lt (List.append_left_lt h)
    · exact le_refl _

end ModuleHost.Text.Numeral
