import ModuleHost.Text.Numeral

/-!
# Points in time

Seconds and nanoseconds since the start of 1970 in UTC, with how far the local clock is ahead, and the calendar.

* `Instant.civil`: the calendar date and the time of day in UTC.
* `Instant.localCivil`: what the local clock shows.
* `Instant.parse?`, `Instant.text`: the form `2026-10-17T10:00:00Z`.
* `Instant.stamp`: the same with microseconds, as log records show it.
-/

namespace ModuleHost

open Text.Numeral (padded)

/-- **A point in time**, as it is read off the local clock. The time zone says how far that clock is ahead of UTC,
and may change it from one moment to the next, as at the end of summer time. -/
structure Instant where
  seconds : Int
  nanos : Nat := 0
  /-- Seconds that the local clock is ahead of UTC at this moment. -/
  offset : Int := 0
  deriving DecidableEq, Inhabited

/-- A calendar date with the time of day. -/
structure Civil where
  year : Int
  month : Nat
  day : Nat
  hour : Nat
  minute : Nat
  second : Nat
  deriving DecidableEq, Inhabited

namespace Instant

/-- The date of a day that is counted from 1 January 1970. Years are counted from March, in eras of
400 years, so that a leap day is the last day of a year. -/
def dateOfDay (day : Int) : Int × Nat × Nat :=
  let z := day + 719468
  let era := z.fdiv 146097
  let dayOfEra := (z.emod 146097).toNat
  let yearOfEra :=
    (dayOfEra - dayOfEra / 1460 + dayOfEra / 36524 - dayOfEra / 146096) / 365
  let dayOfYear := dayOfEra - (365 * yearOfEra + yearOfEra / 4 - yearOfEra / 100)
  let marchMonth := (5 * dayOfYear + 2) / 153
  let d := dayOfYear - (153 * marchMonth + 2) / 5 + 1
  let m := if marchMonth < 10 then marchMonth + 3 else marchMonth - 9
  let y := (yearOfEra : Int) + era * 400
  (if m ≤ 2 then y + 1 else y, m, d)

/-- The day of a date, counted from 1 January 1970. -/
def dayOfDate (year : Int) (month day : Nat) : Int :=
  let y := if month ≤ 2 then year - 1 else year
  let era := y.fdiv 400
  let yearOfEra := (y.emod 400).toNat
  let marchMonth := if 2 < month then month - 3 else month + 9
  let dayOfYear := (153 * marchMonth + 2) / 5 + (day - 1)
  let dayOfEra := yearOfEra * 365 + yearOfEra / 4 - yearOfEra / 100 + dayOfYear
  era * 146097 + dayOfEra - 719468

/-- The calendar date and the time of day, some seconds after the start of 1970. -/
def civilAt (seconds : Int) : Civil :=
  let (y, m, d) := dateOfDay (seconds.fdiv 86400)
  let s := (seconds.emod 86400).toNat
  ⟨y, m, d, s / 3600, s / 60 % 60, s % 60⟩

/-- **The calendar date and the time of day** in UTC. -/
def civil (t : Instant) : Civil :=
  civilAt t.seconds

/-- The seconds that the local clock counts. -/
def localSeconds (t : Instant) : Int :=
  t.seconds + t.offset

/-- **The calendar date and the time of day** that the local clock shows. -/
def localCivil (t : Instant) : Civil :=
  civilAt t.localSeconds

/-- The year with at least four digits; one that has more, or is before the year zero, has a sign. -/
def yearText (y : Int) : String :=
  if 0 ≤ y ∧ y ≤ 9999 then padded 4 y.toNat
  else (if y < 0 then "-" else "+") ++ padded 4 y.natAbs

def dateText (c : Civil) : String :=
  s!"{yearText c.year}-{padded 2 c.month}-{padded 2 c.day}"

def timeText (c : Civil) : String :=
  s!"{padded 2 c.hour}:{padded 2 c.minute}:{padded 2 c.second}"

/-- The fraction of a second in as few groups of three digits as hold it. -/
def fractionText (nanos : Nat) : String :=
  if nanos = 0 then ""
  else if nanos % 1000000 = 0 then s!".{padded 3 (nanos / 1000000)}"
  else if nanos % 1000 = 0 then s!".{padded 6 (nanos / 1000)}"
  else s!".{padded 9 nanos}"

/-- **The instant as text**, in UTC. -/
def text (t : Instant) : String :=
  let c := t.civil
  s!"{dateText c}T{timeText c}{fractionText t.nanos}Z"

/-- **The instant as log records show it**, with microseconds. -/
def stamp (t : Instant) : String :=
  let c := t.civil
  s!"{dateText c}T{timeText c}.{padded 6 (t.nanos / 1000)}Z"

/-- Exactly `n` digits at the start of a text. -/
def fixed? (n : Nat) (cs : List Char) : Option (Nat × List Char) :=
  if (cs.take n).length = n then
    (Text.Numeral.read? (cs.take n)).map (fun v => (v, cs.drop n))
  else none

/-- The zone at the end of a text, as seconds ahead of UTC. -/
def zone? : List Char → Option Int
  | ['Z'] => some 0
  | ['z'] => some 0
  | sign :: r => do
    let (h, r) ← fixed? 2 r
    match r with
    | ':' :: r =>
      let (m, r) ← fixed? 2 r
      guard (r.isEmpty && (sign == '+' || sign == '-'))
      return (if sign == '-' then -1 else 1) * ((h * 3600 + m * 60 : Nat) : Int)
    | _ => none
  | [] => none

/-- **Reading an instant.** The fraction may have up to nine digits. The local clock shows UTC. -/
def parse? (s : String) : Option Instant := do
  let (y, r) ← fixed? 4 s.toList
  let r ← mark '-' r
  let (mo, r) ← fixed? 2 r
  let r ← mark '-' r
  let (d, r) ← fixed? 2 r
  let r ← mark 'T' r
  let (h, r) ← fixed? 2 r
  let r ← mark ':' r
  let (mi, r) ← fixed? 2 r
  let r ← mark ':' r
  let (sec, r) ← fixed? 2 r
  let (digits, r) := match r with
    | '.' :: r => (r.takeWhile Char.isDigit, r.dropWhile Char.isDigit)
    | r => ([], r)
  let zone ← zone? r
  let nanos := ((Text.Numeral.read? ((digits ++ List.replicate 9 '0').take 9)).getD 0)
  return ⟨dayOfDate y mo d * 86400 + ((h * 3600 + mi * 60 + sec : Nat) : Int) - zone, nanos, 0⟩
where
  mark (c : Char) : List Char → Option (List Char)
    | d :: r => if c = d then some r else none
    | [] => none

end Instant

end ModuleHost
