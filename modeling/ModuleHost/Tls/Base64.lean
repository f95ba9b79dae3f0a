import ModuleHost.Storage.Disk

/-!
# Base64

Bytes written in digits of six bits: four digits are three bytes, and padding fills up the last group
of four.

* `decode?`: reads what stands in a file; blanks between digits do not count.
-/

namespace ModuleHost.Base64

/-- The value of a digit. -/
def digit? (c : UInt8) : Option Nat :=
  let n := c.toNat
  if 65 ≤ n ∧ n ≤ 90 then some (n - 65)
  else if 97 ≤ n ∧ n ≤ 122 then some (n - 97 + 26)
  else if 48 ≤ n ∧ n ≤ 57 then some (n - 48 + 52)
  else if n = 43 then some 62
  else if n = 47 then some 63
  else none

/-- The sign that fills up the last group. -/
def pad : UInt8 := 61

def isBlank (c : UInt8) : Bool :=
  c == 32 || c == 9 || c == 10 || c == 13

/-- The number that digits stand for. -/
def value? (digits : List UInt8) : Option Nat :=
  digits.foldlM (fun n c => (digit? c).map (n * 64 + ·)) 0

/-- The bytes of a group of four. -/
def group? (a b c d : UInt8) : Option Bytes :=
  if d != pad then
    (value? [a, b, c, d]).map (fun n => [(n / 65536).toUInt8, (n / 256).toUInt8, n.toUInt8])
  else if c != pad then
    (value? [a, b, c]).map (fun n => [(n / 1024).toUInt8, (n / 4).toUInt8])
  else
    (value? [a, b]).map (fun n => [(n / 16).toUInt8])

/-- The bytes of digits without blanks. Only the last group may be padded. -/
def decodeGroups? : List UInt8 → Option Bytes
  | [] => some []
  | a :: b :: c :: d :: r =>
    if d == pad && !r.isEmpty then none
    else do
      let front ← group? a b c d
      let back ← decodeGroups? r
      return front ++ back
  | _ => none

/-- **The bytes that a text stands for.** -/
def decode? (text : Bytes) : Option Bytes :=
  decodeGroups? (text.filter (fun c => !isBlank c))

end ModuleHost.Base64
