import ModuleHost.Settings.Basic
import ModuleHost.Text.Numeral
import ModuleHost.Text.Split
import ModuleHost.Time.Instant

/-!
# Archives of a log file

A log file `host.log` has archives such as `host.2026-10-17.0.log`: its stem, the period in which it
was written, a number that grows within the period, and its extension.

* `Rotation.period`: the period that a point in time falls into.
* `LogName.archive`, `LogName.key?`: writing and reading the name of an archive.
* `ArchiveKey.le`: the order from the oldest archive to the newest.
-/

namespace ModuleHost

open Text.Numeral (padded)

/-- **The period of a point in time**, as names of archives show it: by the local clock, whatever it shows
then. -/
def Rotation.period (r : Rotation) (t : Instant) : String :=
  let c := t.localCivil
  match r with
  | .daily => Instant.dateText c
  | .hourly => s!"{Instant.dateText c}-{padded 2 c.hour}"
  | .minutely => s!"{Instant.dateText c}-{padded 2 c.hour}-{padded 2 c.minute}"

/-- What the name of an archive says: its period and its number within the period, which is a 64-bit
word. -/
structure ArchiveKey where
  period : String
  index : UInt64
  deriving DecidableEq, Inhabited

/-- The order of archives: by period as text, then by number. -/
def ArchiveKey.le (a b : ArchiveKey) : Bool :=
  a.period < b.period || (a.period == b.period && a.index ≤ b.index)

/-- The name of a log file: what stands before its last dot and after it. -/
structure LogName where
  stem : String
  extension : Option String
  deriving DecidableEq, Inhabited

namespace LogName

/-- The number at the end of an archive's name. -/
def index? (cs : List Char) : Option UInt64 :=
  (Text.Numeral.word? UInt64.size cs).map Nat.toUInt64

/-- **The key of an archive of this log file**, nothing for any other name. -/
def key? (n : LogName) (name : String) : Option ArchiveKey := do
  let rest ← Text.stripFront? n.stem.toList name.toList
  let rest ← Text.stripFront? ['.'] rest
  let middle ← match n.extension with
    | some ext => (Text.stripBack? ext.toList rest).bind (Text.stripBack? ['.'])
    | none => some rest
  let (period, index) ← Text.splitLast? '.' middle
  if period.isEmpty then none
  else (index? index).map (fun i => ⟨String.ofList period, i⟩)

/-- **The name of the archive** with a key. -/
def archive (n : LogName) (k : ArchiveKey) : String :=
  match n.extension with
  | some ext => s!"{n.stem}.{k.period}.{k.index.toNat}.{ext}"
  | none => s!"{n.stem}.{k.period}.{k.index.toNat}"

/-- The archives among some names, each with its key, the oldest first. -/
def archivesAmong (n : LogName) (names : List String) : List (ArchiveKey × String) :=
  (names.filterMap (fun name => (n.key? name).map (fun k => (k, name)))).mergeSort
    (fun a b => a.1.le b.1)

/-- The last number that an archive can have. -/
def lastIndex : UInt64 :=
  18446744073709551615

/-- The number after another, if there is one. -/
def successor? (i : UInt64) : Option UInt64 :=
  if i = lastIndex then none else some (i + 1)

/-- The largest of some 64-bit words. -/
def largest? : List UInt64 → Option UInt64
  | [] => none
  | i :: is =>
    match largest? is with
    | none => some i
    | some j => some (if i < j then j else i)

/-- The numbers of the archives of a period. -/
def numbers (n : LogName) (period : String) (names : List String) : List UInt64 :=
  ((n.archivesAmong names).filter (fun a => a.1.period == period)).map (fun a => a.1.index)

/-- **The number of the next archive** of a period: one more than the largest that is there. It keeps growing
after older archives were removed. The number after each one is formed, so there is none if that of any one is no
64-bit word. -/
def nextIndex (n : LogName) (period : String) (names : List String) : Option UInt64 :=
  ((n.numbers period names).mapM successor?).map (fun is => (largest? is).getD 0)

end LogName

end ModuleHost
