import WrappedTraining.Span
import WrappedTraining.Text.Blank

/-!
# Instants

An `Instant` is a day, a second of that day and nanoseconds. A leap second is the second before
it with nanoseconds from `10 ^ 9` on.

* `Instant.parse?` reads a date and time with an offset, `2024-05-01T10:00:00.5+02:00`; blanks
  around numbers and shorter numbers are let through;
* `Instant.text` writes the instant in UTC, with as many digits after the point as are needed in
  threes;
* `Instant.since` is the time from one instant to another.
-/

namespace WrappedTraining

/-- A moment in UTC. -/
structure Instant where
  /-- Days since the first of January 1970. -/
  day : Int
  /-- Seconds since midnight. -/
  second : Nat
  /-- Nanoseconds; from `10 ^ 9` on they are those of a leap second. -/
  nanos : Nat
  second_lt : second < 86400
  nanos_lt : nanos < 2000000000
deriving DecidableEq

namespace Instant

/-- The first of January 1970 at midnight. -/
def epoch : Instant := ⟨0, 0, 0, by decide, by decide⟩

/-! ### The calendar -/

/-- The year has a 29th of February. -/
def isLeapYear (y : Int) : Bool := y % 4 == 0 && (y % 100 != 0 || y % 400 == 0)

/-- The number of days of a month. -/
def daysInMonth (y : Int) (m : Nat) : Nat :=
  if m = 2 then (if isLeapYear y then 29 else 28)
  else if m = 4 ∨ m = 6 ∨ m = 9 ∨ m = 11 then 30
  else 31

/-- Days from the first of January 1970 to a date. Years are counted from March on, so that the
leap day is the last of its year. -/
def dayNumber (y : Int) (m d : Nat) : Int :=
  let y := if m ≤ 2 then y - 1 else y
  let era := y / 400
  let yearOfEra := y % 400
  let dayOfYear : Int := ((153 * ((m + 9) % 12) + 2) / 5 + d - 1 : Nat)
  let dayOfEra := yearOfEra * 365 + yearOfEra / 4 - yearOfEra / 100 + dayOfYear
  era * 146097 + dayOfEra - 719468

/-- Year, month and day of the month of a day. -/
def civil (day : Int) : Int × Nat × Nat :=
  let z := day + 719468
  let era := z / 146097
  let dayOfEra := z % 146097
  let yearOfEra := (dayOfEra - dayOfEra / 1460 + dayOfEra / 36524 - dayOfEra / 146096) / 365
  let dayOfYear := (dayOfEra - (365 * yearOfEra + yearOfEra / 4 - yearOfEra / 100)).toNat
  let shifted := (5 * dayOfYear + 2) / 153
  let d := dayOfYear - (153 * shifted + 2) / 5 + 1
  let m := if shifted < 10 then shifted + 3 else shifted - 9
  let y := yearOfEra + era * 400
  (if m ≤ 2 then y + 1 else y, m, d)

/-- The years for which there are dates. -/
def minYear : Int := -262143

/-- The last year for which there are dates. -/
def maxYear : Int := 262142

/-- The day lies in one of the years for which there are dates. -/
def hasDate (day : Int) : Bool := dayNumber minYear 1 1 ≤ day && day ≤ dayNumber maxYear 12 31

/-- The instant of a date and time that are `offset` seconds ahead of UTC. The second 60 is a leap
second. There has to be a date both where the time is told and in UTC. -/
def ofLocal? (year : Int) (month date hour minute second nanos : Nat) (offset : Int) :
    Option Instant :=
  let total := dayNumber year month date * 86400 + (hour * 3600 + minute * 60 + min second 59 : Nat)
    - offset
  let nanos := if second = 60 then nanos + 1000000000 else nanos
  if hn : minYear ≤ year ∧ year ≤ maxYear ∧ 1 ≤ month ∧ month ≤ 12 ∧ 1 ≤ date ∧
      date ≤ daysInMonth year month ∧ hour ≤ 23 ∧ minute ≤ 59 ∧ second ≤ 60 ∧
      -86400 < offset ∧ offset < 86400 ∧ hasDate (total / 86400) ∧ nanos < 2000000000 then
    some ⟨total / 86400, (total % 86400).toNat, nanos, by omega, by omega⟩
  else none

/-! ### Reading -/

/-- Drop white space at the start. -/
def skipBlank (cs : List Char) : List Char := cs.dropWhile Text.isBlank

/-- A natural number of one to `width` digits, and what follows it. -/
def digits? (width : Nat) (cs : List Char) : Option (Nat × List Char) :=
  let ds := (cs.takeWhile Char.isDigit).take width
  if ds = [] then none else some (Text.digitsValue ds, cs.drop ds.length)

/-- One character, and what follows it. -/
def expect? (c : Char) : List Char → Option (List Char)
  | d :: cs => if d = c then some cs else none
  | [] => none

/-- A year: up to four digits, or a sign and any number of digits. -/
def year? (cs : List Char) : Option (Int × List Char) :=
  match skipBlank cs with
  | '-' :: cs => (digits? cs.length cs).map fun p => (-(p.1 : Int), p.2)
  | '+' :: cs => (digits? cs.length cs).map fun p => ((p.1 : Int), p.2)
  | cs => (digits? 4 cs).map fun p => ((p.1 : Int), p.2)

/-- A number of one or two digits after blanks. -/
def part? (cs : List Char) : Option (Nat × List Char) := digits? 2 (skipBlank cs)

/-- Digits after a point as nanoseconds; those after the ninth are skipped. -/
def fraction? : List Char → Option (Nat × List Char)
  | '.' :: cs =>
    let ds := cs.takeWhile Char.isDigit
    if ds = [] then none
    else
      let kept := ds.take 9
      some (Text.digitsValue kept * Nat.pow 10 (9 - kept.length), cs.dropWhile Char.isDigit)
  | cs => some (0, cs)

/-- Two digits, the first at most `top`, and what follows them. -/
def twoDigits? (top : Char) : List Char → Option (Nat × List Char)
  | a :: b :: cs =>
    if a.isDigit ∧ b.isDigit ∧ a ≤ top then some (Text.digitsValue [a, b], cs) else none
  | _ => none

/-- Hours and minutes ahead of UTC in seconds. -/
def hoursMinutes? (cs : List Char) : Option (Int × List Char) := do
  let (hours, cs) ← twoDigits? '9' cs
  let (minutes, cs) ← twoDigits? '5' (cs.dropWhile fun c => c = ':' || Text.isBlank c)
  return ((hours * 3600 + minutes * 60 : Nat), cs)

/-- The seconds ahead of UTC: `Z`, `UTC` in any case, or a sign with hours and minutes. -/
def offset? (cs : List Char) : Option (Int × List Char) :=
  match cs with
  | 'Z' :: cs => some (0, cs)
  | 'z' :: cs => some (0, cs)
  | '+' :: cs => hoursMinutes? cs
  | '-' :: cs => (hoursMinutes? cs).map fun p => (-p.1, p.2)
  | '\u2212' :: cs => (hoursMinutes? cs).map fun p => (-p.1, p.2)
  | a :: b :: c :: cs =>
    if [a.toUpper, b.toUpper, c.toUpper] = ['U', 'T', 'C'] then some (0, cs) else none
  | _ => none

/-- Drop the character between date and time. -/
def between? : List Char → Option (List Char)
  | 'T' :: cs => some cs
  | 't' :: cs => some cs
  | ' ' :: cs => some cs
  | _ => none

/-- Read a date and time with an offset. -/
def parse? (s : String) : Option Instant := do
  let (year, cs) ← year? s.toList
  let cs ← expect? '-' (skipBlank cs)
  let (month, cs) ← part? cs
  let cs ← expect? '-' (skipBlank cs)
  let (date, cs) ← part? cs
  let cs ← between? cs
  let (hour, cs) ← part? cs
  let cs ← expect? ':' (skipBlank cs)
  let (minute, cs) ← part? cs
  let cs ← expect? ':' (skipBlank cs)
  let (second, cs) ← part? cs
  let (nanos, cs) ← fraction? cs
  let (offset, cs) ← offset? (skipBlank cs)
  if skipBlank cs = [] then ofLocal? year month date hour minute second nanos offset else none

/-! ### Writing -/

/-- A year: four digits, or a sign and at least four digits outside the years 0 to 9999. -/
def yearText (y : Int) : String :=
  if 0 ≤ y ∧ y ≤ 9999 then Text.padded 4 y.natAbs
  else (if y < 0 then "-" else "+") ++ Text.padded 4 y.natAbs

/-- A part of a second, with three, six or nine digits, or nothing when it is zero. -/
def fractionText (nanos : Nat) : String :=
  if nanos = 0 then ""
  else if nanos % 1000000 = 0 then "." ++ Text.padded 3 (nanos / 1000000)
  else if nanos % 1000 = 0 then "." ++ Text.padded 6 (nanos / 1000)
  else "." ++ Text.padded 9 nanos

/-- The instant in UTC. -/
def text (t : Instant) : String :=
  let (y, m, d) := civil t.day
  let second := t.second % 60 + t.nanos / 1000000000
  yearText y ++ "-" ++ Text.padded 2 m ++ "-" ++ Text.padded 2 d ++ "T" ++
    Text.padded 2 (t.second / 3600) ++ ":" ++ Text.padded 2 (t.second / 60 % 60) ++ ":" ++
    Text.padded 2 second ++ fractionText (t.nanos % 1000000000) ++ "Z"

/-! ### Differences -/

/-- The instant at the start of its second; a leap second starts at `10 ^ 9` nanoseconds. -/
def wholeSecond (t : Instant) : Instant :=
  ⟨t.day, t.second, t.nanos / 1000000000 * 1000000000, t.second_lt, by
    have := t.nanos_lt
    omega⟩

/-- A leap second counts as one more second when the other instant lies at a later second of its
day. -/
def leapCorrection (t u : Instant) : Int :=
  if u.second < t.second ∧ 1000000000 ≤ u.nanos then 1
  else if t.second < u.second ∧ 1000000000 ≤ t.nanos then -1
  else 0

/-- The time from `u` to `t`. -/
def since (t u : Instant) : Span :=
  ⟨((t.day - u.day) * 86400 + (t.second - u.second : Int) + leapCorrection t u) * 1000000000 +
    (t.nanos - u.nanos : Int)⟩

end Instant

end WrappedTraining
