/-!
# Decimal numerals

Reading unsigned numbers of a fixed width.

* `Numeral.read?`: a non-empty run of ASCII digits, leading zeros allowed.
* `Numeral.word?`: the same with an optional plus sign, below a bound.
-/

namespace ModuleHost.Text.Numeral

/-- **A numeral**: one or more ASCII digits and nothing else. -/
def read? (cs : List Char) : Option Nat :=
  if cs.isEmpty || !cs.all Char.isDigit then none else some (Nat.ofDigitChars 10 cs 0)

/-- A numeral below `bound`, with one plus sign allowed before it. -/
def word? (bound : Nat) (cs : List Char) : Option Nat :=
  let digits := match cs with
    | '+' :: r => r
    | r => r
  (read? digits).filter (· < bound)

/-- A TCP port number. -/
def port? (s : String) : Option UInt16 :=
  (word? UInt16.size s.toList).map Nat.toUInt16

/-- `n` in decimal with at least `width` digits. -/
def padded (width n : Nat) : String :=
  let digits := Nat.toDigits 10 n
  String.ofList (List.replicate (width - digits.length) '0' ++ digits)

end ModuleHost.Text.Numeral
