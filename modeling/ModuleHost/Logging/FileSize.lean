import ModuleHost.Text.Blank
import ModuleHost.Text.Numeral

/-!
# File sizes

Sizes such as `512`, `64KB`, `10MB` or `1GB`, in binary multiples and below `2 ^ 64`.

* `FileSize.parse?`: digits, blanks, a unit, with blanks around the whole.
-/

namespace ModuleHost.FileSize

/-- Sizes are 64-bit numbers. -/
def bound : Nat :=
  UInt64.size

/-- The bytes that a unit in capitals stands for. -/
def unitBytes? : List Char → Option Nat
  | [] => some 1
  | ['B'] => some 1
  | ['K'] => some 1024
  | ['K', 'B'] => some 1024
  | ['M'] => some (1024 * 1024)
  | ['M', 'B'] => some (1024 * 1024)
  | ['G'] => some (1024 * 1024 * 1024)
  | ['G', 'B'] => some (1024 * 1024 * 1024)
  | _ => none

/-- **Reading a size.** The number and the product with its unit must both stay below `bound`. -/
def parse? (s : String) : Option Nat := do
  let cs := Text.trimChars s.toList
  let value ← Text.Numeral.read? (cs.takeWhile Char.isDigit)
  let unit ← unitBytes? ((Text.trimChars (cs.dropWhile Char.isDigit)).map Char.toUpper)
  if value < bound ∧ value * unit < bound then some (value * unit) else none

end ModuleHost.FileSize
