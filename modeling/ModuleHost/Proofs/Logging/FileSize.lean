import Mathlib
import ModuleHost.Logging.FileSize
import ModuleHost.Proofs.Text.Blank
import ModuleHost.Proofs.Text.Digits

/-!
# The grammar of sizes

A size is written as a run of digits and a unit. Blanks may stand around it and between the two, and the letters
of the unit may be small or capital. The grammar has no bound; a size is read if its bytes can be counted in 64
bits.

* `FileSize.units`: the units in capitals, with the bytes that each stands for.
* `FileSize.Denotes`: **the grammar**, without the blanks around a size.
* `FileSize.parse?_iff_parts`: what is read of each part.
* `FileSize.read_iff_denotes`: **the texts of the grammar are read, and no others**.
-/

namespace ModuleHost.FileSize

open Text (AnyCase Trimmed isBlank trimChars)
open Text.Numeral (Run read?)

variable {body unit name : List Char} {s : String} {m n v : Nat}

/-! ### The grammar -/

/-- **The units in capitals**, with the bytes that each stands for. -/
def units : List (List Char × Nat) :=
  [([], 1), (['B'], 1), (['K'], 2 ^ 10), (['K', 'B'], 2 ^ 10), (['M'], 2 ^ 20), (['M', 'B'], 2 ^ 20),
    (['G'], 2 ^ 30), (['G', 'B'], 2 ^ 30)]

/-- **The grammar of sizes**: a run of digits, any blanks, and a unit in any case. -/
inductive Denotes : List Char → Nat → Prop
  | mk {digits gap unit name : List Char} {v m : Nat} (hdigits : Run digits v)
    (hgap : ∀ c ∈ gap, isBlank c = true) (hname : (name, m) ∈ units) (hunit : AnyCase unit name) :
    Denotes (digits ++ gap ++ unit) (v * m)

/-! ### Units -/

theorem isUpper_of_mem_units (h : (name, m) ∈ units) : ∀ u ∈ name, u.isUpper = true := by
  have hall : units.all (fun p => p.1.all Char.isUpper) = true := rfl
  exact List.all_eq_true.1 (List.all_eq_true.1 hall _ h)

/-- A unit is no less than a byte. -/
theorem pos_of_mem_units (h : (name, m) ∈ units) : 0 < m := by
  have hall : ∀ p ∈ units, 0 < p.2 := by simp [units]
  exact hall _ h

theorem unitBytes?_eq_some_iff : unitBytes? name = some m ↔ (name, m) ∈ units := by
  constructor
  · intro h
    unfold unitBytes? at h
    split at h
    case h_9 => cases h
    all_goals
      obtain rfl := Option.some.inj h
      decide
  · intro h
    have hall : ∀ p ∈ units, unitBytes? p.1 = some p.2 := by decide
    exact hall _ h

/-- **A unit is read in any case.** -/
theorem unitBytes?_toUpper_iff :
    unitBytes? (unit.map Char.toUpper) = some m ↔ ∃ name, (name, m) ∈ units ∧ AnyCase unit name := by
  constructor
  · intro h
    have hname := unitBytes?_eq_some_iff.1 h
    exact ⟨_, hname, (Text.map_toUpper_eq_iff (isUpper_of_mem_units hname)).1 rfl⟩
  · rintro ⟨name, hname, hunit⟩
    rw [(Text.map_toUpper_eq_iff (isUpper_of_mem_units hname)).2 hunit]
    exact unitBytes?_eq_some_iff.2 hname

/-! ### Reading -/

/-- **What is read of each part**: the digits, and behind them the unit without the blanks around it. -/
theorem parse?_iff_parts :
    parse? s = some n ↔ ∃ v m, read? ((trimChars s.toList).takeWhile Char.isDigit) = some v ∧
      unitBytes? ((trimChars ((trimChars s.toList).dropWhile Char.isDigit)).map Char.toUpper) = some m ∧
      v < bound ∧ v * m < bound ∧ n = v * m := by
  unfold parse?
  simp only [Option.bind_eq_bind, Option.bind_eq_some_iff, Option.ite_none_right_eq_some, Option.some.injEq]
  constructor
  · rintro ⟨v, hv, m, hm, ⟨hlt, hlt'⟩, rfl⟩
    exact ⟨v, m, hv, hm, hlt, hlt', rfl⟩
  · rintro ⟨v, m, hv, hm, hlt, hlt', rfl⟩
    exact ⟨v, hv, m, hm, ⟨hlt, hlt'⟩, rfl⟩

/-- **A text that does not end in a blank** is in the grammar if its parts are read. -/
theorem denotes_of_parts (hlast : ∀ c ∈ body.getLast?, isBlank c = false)
    (hv : read? (body.takeWhile Char.isDigit) = some v)
    (hm : unitBytes? ((trimChars (body.dropWhile Char.isDigit)).map Char.toUpper) = some m) :
    Denotes body (v * m) := by
  have hsplit : body.takeWhile Char.isDigit ++ body.dropWhile Char.isDigit = body :=
    List.takeWhile_append_dropWhile
  set rest := body.dropWhile Char.isDigit
  have hrest : rest.takeWhile isBlank ++ rest.dropWhile isBlank = rest := List.takeWhile_append_dropWhile
  have hend : ∀ c ∈ rest.getLast?, isBlank c = false := by
    intro c hc
    refine hlast c ?_
    rw [← hsplit, List.getLast?_append, Option.mem_def.1 hc]
    rfl
  rw [Text.trimChars_eq_dropWhile hend] at hm
  obtain ⟨name, hname, hunit⟩ := unitBytes?_toUpper_iff.1 hm
  -- the blanks that were cut off stand between the digits and the unit
  have hgap : ∀ c ∈ rest.takeWhile isBlank, isBlank c = true := fun c hc => List.mem_takeWhile_imp hc
  have hdenotes := Denotes.mk (Text.Numeral.read?_eq_some_iff.1 hv) hgap hname hunit
  rwa [List.append_assoc, hrest, hsplit] at hdenotes

/-- **The parts of a text in the grammar are read.** -/
theorem Denotes.parts (h : Denotes body n) : ∃ v m, read? (body.takeWhile Char.isDigit) = some v ∧
    unitBytes? ((trimChars (body.dropWhile Char.isDigit)).map Char.toUpper) = some m ∧ 0 < m ∧ n = v * m := by
  obtain ⟨hdigits, hgap, hname, hunit⟩ := h
  rename_i digits gap unit name v m
  have hletter : ∀ c ∈ unit, c.isAlpha = true := fun c hc => hunit.isAlpha (isUpper_of_mem_units hname) hc
  -- the digits end where the blanks or the unit begin
  have hstop : ∀ c ∈ (gap ++ unit).head?, c.isDigit = false := by
    intro c hc
    by_contra hdigit
    rw [Bool.not_eq_false] at hdigit
    rcases List.mem_append.1 (List.mem_of_mem_head? hc) with hc | hc
    · have hblank := hgap c hc
      rw [Text.isBlank_eq_false_of_isDigit hdigit] at hblank
      cases hblank
    · rw [Text.isDigit_eq_false_of_isAlpha (hletter c hc)] at hdigit
      cases hdigit
  have htrim : trimChars (gap ++ unit) = unit := by
    refine Text.trimChars_eq_iff.2 ⟨⟨gap, [], (List.append_nil _).symm, hgap, fun c hc => by cases hc⟩, ?_, ?_⟩
    · exact fun c hc => Text.isBlank_eq_false_of_isAlpha (hletter c (List.mem_of_mem_head? hc))
    · exact fun c hc => Text.isBlank_eq_false_of_isAlpha (hletter c (List.mem_of_mem_getLast? hc))
  refine ⟨v, m, ?_, ?_, pos_of_mem_units hname, rfl⟩
  · rw [List.append_assoc, Text.takeWhile_append_of_stop hdigits.isDigit hstop]
    exact Text.Numeral.read?_eq_some_iff.2 hdigits
  · rw [List.append_assoc, Text.dropWhile_append_of_stop hdigits.isDigit hstop, htrim]
    exact unitBytes?_toUpper_iff.2 ⟨name, hname, hunit⟩

/-- **The texts of the grammar are read, and no others.** A text is read as a number of bytes exactly if it is in
the grammar with that number once the blanks at its ends are cut off, and the number fits into 64 bits. Nothing is
read exactly if the grammar has the text with no number, or only with numbers that do not fit. -/
theorem read_iff_denotes (s : String) :
    (∀ n, parse? s = some n ↔ (∃ body, Trimmed s.toList body ∧ Denotes body n) ∧ n < 2 ^ 64) ∧
    (parse? s = none ↔ ∀ body n, Trimmed s.toList body → Denotes body n → 2 ^ 64 ≤ n) := by
  have hread (n : Nat) : parse? s = some n ↔ (∃ body, Trimmed s.toList body ∧ Denotes body n) ∧ n < 2 ^ 64 := by
    rw [parse?_iff_parts]
    constructor
    · rintro ⟨v, m, hv, hm, -, hlt, rfl⟩
      have htrim := Text.trimmed_trimChars s.toList
      exact ⟨⟨_, htrim, denotes_of_parts htrim.last hv hm⟩, hlt⟩
    · rintro ⟨⟨body, htrim, hdenotes⟩, hlt⟩
      obtain ⟨v, m, hv, hm, hpos, rfl⟩ := hdenotes.parts
      rw [Text.trimChars_eq_iff.2 htrim]
      -- a number that does not fit is no smaller in any unit
      exact ⟨v, m, hv, hm, lt_of_le_of_lt (Nat.le_mul_of_pos_right v hpos) hlt, hlt, rfl⟩
  refine ⟨hread, ?_⟩
  rw [Option.eq_none_iff_forall_ne_some]
  constructor
  · intro hnone body n htrim hdenotes
    by_contra hlt
    exact hnone n ((hread n).2 ⟨⟨body, htrim, hdenotes⟩, Nat.lt_of_not_le hlt⟩)
  · intro hall n hn
    obtain ⟨⟨body, htrim, hdenotes⟩, hlt⟩ := (hread n).1 hn
    exact absurd (hall body n htrim hdenotes) (Nat.not_le.2 hlt)

/-- Blanks of several kinds, leading zeros, and letters of both cases. -/
theorem read_iff_denotes_blanks :
    let body := ['0', '0', '7', ' ', '\t', 'k', 'B']
    Trimmed "\u3000007 \tkB\n".toList body ∧ Denotes body 7168 ∧ parse? "\u3000007 \tkB\n" = some 7168 := by
  intro body
  have htrim : Trimmed "\u3000007 \tkB\n".toList body := Text.trimChars_eq_iff.1 (by decide +kernel)
  have hrun : Run ['0', '0', '7'] 7 := Text.Numeral.read?_eq_some_iff.1 (by decide)
  have hunit : AnyCase ['k', 'B'] ['K', 'B'] := .cons (Or.inr (by decide)) (.cons (Or.inl rfl) .nil)
  have hkilo : (['K', 'B'], 1024) ∈ units := unitBytes?_eq_some_iff.1 rfl
  have hgap : ∀ c ∈ [' ', '\t'], isBlank c = true := List.all_eq_true.1 rfl
  have hdenotes : Denotes body 7168 := Denotes.mk hrun hgap hkilo hunit
  exact ⟨htrim, hdenotes, ((read_iff_denotes _).1 7168).2 ⟨⟨body, htrim, hdenotes⟩, by decide⟩⟩

/-- The number fits and its bytes do not; then neither fits. -/
example : parse? "18014398509481984K" = none ∧ parse? "18446744073709551616" = none := by
  decide +kernel

end ModuleHost.FileSize
