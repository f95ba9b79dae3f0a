import ModuleHost.Storage.Disk

/-!
# Tagged values

Certificates and keys are values with a tag and a length, one in the other, and each has only one
written form.

* `Der.write`: a value with its tag.
* `Der.Reader`: reads values one after another.
-/

namespace ModuleHost.Der

def integerTag : UInt8 := 0x02
def bitsTag : UInt8 := 0x03
def bytesTag : UInt8 := 0x04
def nameTag : UInt8 := 0x06
def flagTag : UInt8 := 0x01
def sequenceTag : UInt8 := 0x30

/-- A field of a number of its own, with values in it. -/
def fieldTag (number : Nat) : UInt8 := (0xa0 + number).toUInt8

/-- A number in bytes, the highest first. -/
def bigEndian (n : Nat) : Bytes :=
  if n < 256 then [n.toUInt8] else bigEndian (n / 256) ++ [n.toUInt8]

/-- A number in a fixed count of bytes. -/
def fixed (width n : Nat) : Bytes :=
  let bs := bigEndian n
  List.replicate (width - bs.length) 0 ++ bs

/-- The number that bytes stand for. -/
def natOf (bs : Bytes) : Nat :=
  bs.foldl (fun n b => n * 256 + b.toNat) 0

/-- A length: one byte, or the number of its bytes and the bytes. -/
def writeLength (n : Nat) : Bytes :=
  if n < 128 then [n.toUInt8]
  else (128 + (bigEndian n).length).toUInt8 :: bigEndian n

/-- **A value with its tag.** -/
def write (tag : UInt8) (content : Bytes) : Bytes :=
  tag :: writeLength content.length ++ content

/-- A value that was read: its tag, its content, and how it was written. -/
structure Element where
  tag : UInt8
  content : Bytes
  written : Bytes
  deriving DecidableEq, Inhabited

/-- The length at the start of some bytes, and the bytes after it. -/
def length? : Bytes → Option (Nat × Bytes)
  | [] => none
  | b :: r =>
    if b < 128 then some (b.toNat, r)
    else
      let count := b.toNat - 128
      let n := natOf (r.take count)
      if r.length < count then none
      else if writeLength n == b :: r.take count then some (n, r.drop count)
      else none

/-- **The value at the start of some bytes**, and the bytes after it. -/
def read? : Bytes → Option (Element × Bytes)
  | [] => none
  | tag :: r => do
    let (n, r) ← length? r
    guard (n ≤ r.length)
    let content := r.take n
    return (⟨tag, content, write tag content⟩, r.drop n)

/-- **Reading values one after another.** -/
abbrev Reader := StateT Bytes Option

/-- The next value, which has a tag. -/
def next (tag : UInt8) : Reader Element := do
  match read? (← get) with
  | some (e, rest) =>
    guard (e.tag == tag)
    set rest
    return e
  | none => failure

/-- The next value, if it has a tag. -/
def next? (tag : UInt8) : Reader (Option Element) := do
  match (← get).head? with
  | some t => if t == tag then return some (← next tag) else return none
  | none => return none

/-- All that is left. -/
def remainder : Reader Bytes := do
  let bs ← get
  set ([] : Bytes)
  return bs

/-- Nothing is left. -/
def done : Reader Unit := do
  guard (← get).isEmpty

/-- What is in a value, down to its end. -/
def Reader.all {α : Type} (r : Reader α) (content : Bytes) : Option α :=
  ((do let a ← r; done; return a : Reader α).run content).map (·.1)

/-- The next value, which has a tag, and what is in it. -/
def inside {α : Type} (tag : UInt8) (r : Reader α) : Reader α := do
  let e ← next tag
  match r.all e.content with
  | some a => return a
  | none => failure

/-- Whole bytes in a value of bits. -/
def wholeBytes? (content : Bytes) : Option Bytes :=
  match content with
  | 0 :: r => some r
  | _ => none

end ModuleHost.Der
