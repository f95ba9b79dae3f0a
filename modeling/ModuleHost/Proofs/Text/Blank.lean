import Mathlib
import ModuleHost.Text.Blank

/-!
# Trimming

What is left of a text without the blanks at its ends, and text in capitals that is written in any case.

* `Text.trimChars_eq_iff`: **trimming cuts off blanks, and all of them**.
* `Text.map_toUpper_eq_iff`: what becomes a given text in capitals.
-/

namespace ModuleHost.Text

variable {p : Char → Bool} {as bs cs body us : List Char} {c u : Char}

/-! ### Characters -/

/-- Visible characters of ASCII are not blank. -/
theorem isBlank_eq_false_of_visible (hlow : 0x20 < c.toNat) (hhigh : c.toNat < 0x7F) : isBlank c = false := by
  by_contra hblank
  rw [Bool.not_eq_false] at hblank
  simp only [isBlank, Bool.or_eq_true, Bool.and_eq_true, decide_eq_true_eq, beq_iff_eq] at hblank
  omega

theorem toNat_of_isDigit (h : c.isDigit = true) : 48 ≤ c.toNat ∧ c.toNat ≤ 57 :=
  Char.isDigit_iff_toNat.1 h

theorem toNat_of_isAlpha (h : c.isAlpha = true) : 65 ≤ c.toNat ∧ c.toNat ≤ 122 := by
  simp only [Char.isAlpha, Char.isUpper, Char.isLower, Bool.or_eq_true, Bool.and_eq_true,
    decide_eq_true_eq, ge_iff_le, UInt32.le_iff_toNat_le] at h
  have hc : c.val.toNat = c.toNat := rfl
  have hA : 'A'.val.toNat = 65 := rfl
  have hZ : 'Z'.val.toNat = 90 := rfl
  have ha : 'a'.val.toNat = 97 := rfl
  have hz : 'z'.val.toNat = 122 := rfl
  omega

theorem isBlank_eq_false_of_isDigit (h : c.isDigit = true) : isBlank c = false := by
  obtain ⟨hlow, hhigh⟩ := toNat_of_isDigit h
  exact isBlank_eq_false_of_visible (by omega) (by omega)

theorem isBlank_eq_false_of_isAlpha (h : c.isAlpha = true) : isBlank c = false := by
  obtain ⟨hlow, hhigh⟩ := toNat_of_isAlpha h
  exact isBlank_eq_false_of_visible (by omega) (by omega)

theorem isDigit_eq_false_of_isAlpha (h : c.isAlpha = true) : c.isDigit = false := by
  by_contra hdigit
  rw [Bool.not_eq_false] at hdigit
  have hlow := (toNat_of_isAlpha h).1
  have hhigh := (toNat_of_isDigit hdigit).2
  omega

/-- **A capital comes from itself and from its small letter**, and from no other character. -/
theorem toUpper_eq_iff (hu : u.isUpper = true) : c.toUpper = u ↔ c = u ∨ c = u.toLower := by
  constructor
  · rintro rfl
    by_cases hc : c.isLower = true
    · right
      rw [Char.toLower_toUpper_eq_toLower, Char.toLower_eq_of_not_isUpper (Char.not_isUpper_of_isLower hc)]
    · left
      rw [Char.toUpper_eq_of_not_isLower hc]
  · have hself : u.toUpper = u := Char.toUpper_eq_of_not_isLower (Char.not_isLower_of_isUpper hu)
    rintro (rfl | rfl)
    · exact hself
    · rw [Char.toUpper_toLower_eq_toUpper, hself]

/-- **A text in any case**: each character is that of the text in capitals, or its small letter. -/
def AnyCase (cs us : List Char) : Prop :=
  List.Forall₂ (fun c u => c = u ∨ c = u.toLower) cs us

theorem map_toUpper_eq_iff (hus : ∀ u ∈ us, u.isUpper = true) : cs.map Char.toUpper = us ↔ AnyCase cs us := by
  unfold AnyCase
  induction us generalizing cs with
  | nil => simp
  | cons u us ih =>
    cases cs with
    | nil => simp
    | cons c cs =>
      rw [List.map_cons, List.cons.injEq, List.forall₂_cons, toUpper_eq_iff (hus u List.mem_cons_self),
        ih (fun v hv => hus v (List.mem_cons_of_mem u hv))]

theorem AnyCase.isAlpha (h : AnyCase cs us) (hus : ∀ u ∈ us, u.isUpper = true) (hc : c ∈ cs) :
    c.isAlpha = true := by
  have hmem : c.toUpper ∈ us := by
    rw [← (map_toUpper_eq_iff hus).2 h]
    exact List.mem_map_of_mem hc
  rw [← Char.isUpper_toUpper_eq_isAlpha]
  exact hus _ hmem

/-! ### Where a class of characters ends -/

/-- What stands at the end of a class is not of it. -/
theorem head?_dropWhile (p : Char → Bool) (cs : List Char) : ∀ c ∈ (cs.dropWhile p).head?, p c = false := by
  intro c hc
  have h := List.head?_dropWhile_not p cs
  rw [Option.mem_def.1 hc] at h
  exact h

theorem dropWhile_append_of_stop (has : ∀ c ∈ as, p c = true) (hbs : ∀ c ∈ bs.head?, p c = false) :
    (as ++ bs).dropWhile p = bs := by
  rw [List.dropWhile_append_of_pos has]
  cases bs with
  | nil => rfl
  | cons b bs => exact List.dropWhile_cons_of_neg (by simpa using hbs b rfl)

theorem takeWhile_append_of_stop (has : ∀ c ∈ as, p c = true) (hbs : ∀ c ∈ bs.head?, p c = false) :
    (as ++ bs).takeWhile p = as := by
  have hparts := List.takeWhile_append_dropWhile (p := p) (l := as ++ bs)
  rw [dropWhile_append_of_stop has hbs] at hparts
  exact List.append_cancel_right hparts

/-! ### Trimming -/

/-- **What is left of a text without the blanks at its ends**: blanks were cut off, and it neither starts nor ends
with one. -/
structure Trimmed (cs body : List Char) : Prop where
  parts : ∃ before after, cs = before ++ body ++ after ∧ (∀ c ∈ before, isBlank c = true) ∧
    ∀ c ∈ after, isBlank c = true
  first : ∀ c ∈ body.head?, isBlank c = false
  last : ∀ c ∈ body.getLast?, isBlank c = false

theorem trimmed_trimChars (cs : List Char) : Trimmed cs (trimChars cs) := by
  unfold trimChars
  -- the blanks in front are cut off first, and those at the end of the rest
  set rest := cs.dropWhile isBlank with hcut
  have hfront : cs.takeWhile isBlank ++ rest = cs := List.takeWhile_append_dropWhile
  have hrest : rest = (rest.reverse.dropWhile isBlank).reverse ++ (rest.reverse.takeWhile isBlank).reverse := by
    rw [← List.reverse_append, List.takeWhile_append_dropWhile, List.reverse_reverse]
  constructor
  case parts =>
    refine ⟨cs.takeWhile isBlank, (rest.reverse.takeWhile isBlank).reverse, ?_,
      fun c hc => List.mem_takeWhile_imp hc, fun c hc => List.mem_takeWhile_imp (List.mem_reverse.1 hc)⟩
    rw [List.append_assoc, ← hrest, hfront]
  case first =>
    intro c hc
    refine head?_dropWhile isBlank cs c ?_
    rw [← hcut, hrest, List.head?_append, Option.mem_def.1 hc]
    rfl
  case last =>
    intro c hc
    rw [List.getLast?_reverse] at hc
    exact head?_dropWhile isBlank _ c hc

/-- **Trimming cuts off blanks, and all of them**, at both ends. -/
theorem trimChars_eq_iff : trimChars cs = body ↔ Trimmed cs body := by
  refine ⟨fun h => h ▸ trimmed_trimChars cs, ?_⟩
  rintro ⟨⟨before, after, rfl, hbefore, hafter⟩, hfirst, hlast⟩
  have hback : ((body ++ after).reverse.dropWhile isBlank).reverse = body := by
    rw [List.reverse_append, dropWhile_append_of_stop (fun c hc => hafter c (List.mem_reverse.1 hc)),
      List.reverse_reverse]
    simpa using hlast
  unfold trimChars
  rw [List.append_assoc, List.dropWhile_append_of_pos hbefore]
  cases body with
  | nil =>
    -- all is blank
    have hnone : ([] ++ after).dropWhile isBlank = [] := List.dropWhile_eq_nil_iff.2 hafter
    rw [hnone]
    rfl
  | cons c body =>
    have hc : isBlank c = false := hfirst c rfl
    rw [List.cons_append, List.dropWhile_cons_of_neg (by simp [hc])]
    exact hback

/-- A text that does not end in a blank has blanks to cut off in front only. -/
theorem trimChars_eq_dropWhile (hlast : ∀ c ∈ cs.getLast?, isBlank c = false) :
    trimChars cs = cs.dropWhile isBlank := by
  have hsplit : cs.takeWhile isBlank ++ cs.dropWhile isBlank = cs := List.takeWhile_append_dropWhile
  refine trimChars_eq_iff.2 ⟨⟨cs.takeWhile isBlank, [], ?_, fun c hc => List.mem_takeWhile_imp hc,
    fun c hc => by cases hc⟩, head?_dropWhile isBlank cs, fun c hc => hlast c ?_⟩
  · rw [List.append_nil, hsplit]
  · rw [← hsplit, List.getLast?_append, Option.mem_def.1 hc]
    rfl

end ModuleHost.Text
