/-!
# Blank characters

White space as Unicode defines it (property `White_Space`), and trimming by it.

* `trimChars_of_no_blank`: text without blanks at its ends is left alone.
-/

namespace ModuleHost.Text

/-- **A blank character**: one of the 25 code points with the Unicode property `White_Space`. -/
def isBlank (c : Char) : Bool :=
  (9 ≤ c.toNat && c.toNat ≤ 13) || c.toNat == 0x20 || c.toNat == 0x85 || c.toNat == 0xA0 ||
    c.toNat == 0x1680 || (0x2000 ≤ c.toNat && c.toNat ≤ 0x200A) || c.toNat == 0x2028 ||
    c.toNat == 0x2029 || c.toNat == 0x202F || c.toNat == 0x205F || c.toNat == 0x3000

/-- The characters without the blanks at both ends. -/
def trimChars (cs : List Char) : List Char :=
  ((cs.dropWhile isBlank).reverse.dropWhile isBlank).reverse

/-- The text without the blanks at both ends. -/
def trim (s : String) : String :=
  String.ofList (trimChars s.toList)

/-- **Nothing to trim.** Text that starts and ends with a character that is not blank stays. -/
theorem trimChars_of_no_blank {cs : List Char} (h : ∀ c ∈ cs, isBlank c = false) :
    trimChars cs = cs := by
  have key : ∀ ds : List Char, (∀ c ∈ ds, isBlank c = false) → ds.dropWhile isBlank = ds := by
    intro ds hd
    cases ds with
    | nil => rfl
    | cons d r => simp [hd d (by simp)]
  rw [trimChars, key cs h, key cs.reverse (by simpa using h), List.reverse_reverse]

/-- Upper case by the ASCII table; every other character stays. -/
def upper (s : String) : String :=
  s.map Char.toUpper

/-- Lower case by the ASCII table; every other character stays. -/
def lower (s : String) : String :=
  s.map Char.toLower

/-- The same text up to the case of ASCII letters. -/
def sameLetters (s t : String) : Bool :=
  lower s == lower t

end ModuleHost.Text
