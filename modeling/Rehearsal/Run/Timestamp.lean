import Rehearsal.Decimal.Digits
import Rehearsal.Decimal.Shortest
import Rehearsal.Text.Blank
import Rehearsal.Text.Cut

/-!
Points in time, in the calendar and in coordinated universal time, to the nanosecond. A leap second is
the second 60 of its minute. Times are read in a relaxed form of RFC 3339 with any offset, and written
in one form.
-/
namespace Rehearsal

structure Date where
  year : Int
  month : Nat
  day : Nat
deriving DecidableEq, Repr

namespace Date

def isLeap (year : Int) : Bool :=
  year % 4 = 0 && (year % 100 ≠ 0 || year % 400 = 0)

def daysIn (year : Int) : Nat → Nat
  | 2 => if isLeap year then 29 else 28
  | 4 | 6 | 9 | 11 => 30
  | _ => 31

/-- The years that times may have. -/
def firstYear : Int := -262143

def lastYear : Int := 262142

def valid (d : Date) : Bool :=
  firstYear ≤ d.year && d.year ≤ lastYear && 1 ≤ d.month && d.month ≤ 12 && 1 ≤ d.day &&
    d.day ≤ daysIn d.year d.month

def next (d : Date) : Date :=
  if d.day < daysIn d.year d.month then { d with day := d.day + 1 }
  else if d.month < 12 then ⟨d.year, d.month + 1, 1⟩
  else ⟨d.year + 1, 1, 1⟩

def previous (d : Date) : Date :=
  if 1 < d.day then { d with day := d.day - 1 }
  else if 1 < d.month then ⟨d.year, d.month - 1, daysIn d.year (d.month - 1)⟩
  else ⟨d.year - 1, 12, 31⟩

/-- The date so many days after the first of January 1970. Years are counted from the first of March,
in cycles of 400 years, so that a leap day is the last day of its year. -/
def ofDays (days : Nat) : Date :=
  let n := days + 719468
  let cycle := n / 146097
  let dayOfCycle := n % 146097
  let yearOfCycle :=
    (dayOfCycle - dayOfCycle / 1460 + dayOfCycle / 36524 - dayOfCycle / 146096) / 365
  let dayOfYear := dayOfCycle - (365 * yearOfCycle + yearOfCycle / 4 - yearOfCycle / 100)
  let m := (5 * dayOfYear + 2) / 153
  let day := dayOfYear - (153 * m + 2) / 5 + 1
  let month := if m < 10 then m + 3 else m - 9
  ⟨yearOfCycle + cycle * 400 + (if month ≤ 2 then 1 else 0), month, day⟩

end Date

structure Timestamp where
  date : Date
  hour : Nat
  minute : Nat
  second : Nat
  nanos : Nat
deriving DecidableEq, Repr

namespace Timestamp

/-- The beginning of 1970. -/
def epoch : Timestamp := ⟨⟨1970, 1, 1⟩, 0, 0, 0, 0⟩

/-- The time so many seconds after the beginning of 1970. -/
def ofSeconds (seconds nanos : Nat) : Timestamp :=
  let s := seconds % 86400
  ⟨Date.ofDays (seconds / 86400), s / 3600, s / 60 % 60, s % 60, nanos⟩

def valid (t : Timestamp) : Bool :=
  t.date.valid && t.hour < 24 && t.minute < 60 && t.second ≤ 60 && t.nanos < 1000000000

/-- The time `minutes` earlier, for an amount of less than a day either way. -/
def earlier (t : Timestamp) (minutes : Int) : Timestamp :=
  let m := (t.hour : Int) * 60 + t.minute - minutes
  let date := if m < 0 then t.date.previous else if 1440 ≤ m then t.date.next else t.date
  let m := (m % 1440).toNat
  { t with date, hour := m / 60, minute := m % 60 }

abbrev Parser (α : Type) := List Char → Option (α × List Char)

/-- A number of at least one digit and at most `width`, blanks before it aside. -/
def number (width : Nat) : Parser Nat := fun s =>
  let s := Text.trimStart s
  let ds := (s.take width).takeWhile Char.isDigit
  if ds.isEmpty then none else some (Decimal.valueOf ds, s.drop ds.length)

/-- A year has at most four digits unless it has a sign. -/
def year : Parser Int := fun s =>
  match Text.trimStart s with
  | '-' :: rest => signed (-1) rest
  | '+' :: rest => signed 1 rest
  | s => (number 4 s).map fun (n, rest) => (n, rest)
where
  signed (sign : Int) (s : List Char) : Option (Int × List Char) :=
    let ds := s.takeWhile Char.isDigit
    if ds.isEmpty then none else some (sign * Decimal.valueOf ds, s.drop ds.length)

/-- A separator with blanks before it. -/
def separator (c : Char) : Parser Unit := fun s =>
  match Text.trimStart s with
  | x :: rest => if x = c then some ((), rest) else none
  | [] => none

/-- Nanoseconds behind a point, of which nine digits count. -/
def fraction : Parser Nat := fun s =>
  match s with
  | '.' :: rest =>
    let ds := rest.takeWhile Char.isDigit
    if ds.isEmpty then none
    else
      let shown := ds.take 9
      some (Decimal.valueOf shown * Nat.pow 10 (9 - shown.length), rest.drop ds.length)
  | s => some (0, s)

def twoDigits : Parser Nat := fun s =>
  match s with
  | a :: b :: rest => if a.isDigit && b.isDigit then some (Decimal.valueOf [a, b], rest) else none
  | _ => none

def isMinus (c : Char) : Bool := c = '-' || c = '−'

/-- An offset in minutes: a name of universal time, or a sign with hours and minutes. -/
def offset : Parser Int := fun s =>
  match s with
  | 'Z' :: rest | 'z' :: rest => some (0, rest)
  | c :: rest =>
    if (s.take 3).map Char.toUpper = ['U', 'T', 'C'] then some (0, s.drop 3)
    else if c = '+' || isMinus c then do
      let (hours, rest) ← twoDigits rest
      let (minutes, rest) ← twoDigits (rest.dropWhile fun c => c = ':' || Text.isBlank c)
      if 23 < hours ∨ 59 < minutes then none
      else
        let total : Int := hours * 60 + minutes
        some (if c = '+' then total else -total, rest)
    else none
  | [] => none

def dateAndTime : Parser Timestamp := fun s => do
  let (year, s) ← year s
  let (_, s) ← separator '-' s
  let (month, s) ← number 2 s
  let (_, s) ← separator '-' s
  let (day, s) ← number 2 s
  let s ← match s with
    | 'T' :: rest | 't' :: rest | ' ' :: rest => some rest
    | _ => none
  let (hour, s) ← number 2 s
  let (_, s) ← separator ':' s
  let (minute, s) ← number 2 s
  let (_, s) ← separator ':' s
  let (second, s) ← number 2 s
  let (nanos, s) ← fraction s
  return (⟨⟨year, month, day⟩, hour, minute, second, nanos⟩, s)

/-- The time that a text names, in universal time. -/
def ofText? (text : String) : Option Timestamp := do
  let (there, s) ← dateAndTime text.toList
  let (minutes, s) ← offset (Text.trimStart s)
  let t := there.earlier minutes
  if (Text.trimStart s).isEmpty && there.valid && t.valid then some t else none

/-- Four digits, or a sign and at least four digits outside of the years 0 to 9999. -/
def yearChars (year : Int) : List Char :=
  if 0 ≤ year ∧ year ≤ 9999 then Decimal.padded 4 year.toNat
  else (if year < 0 then '-' else '+') :: Decimal.padded 4 year.natAbs

/-- No digits, or three, six or nine: the fewest that are exact. -/
def fractionChars (nanos : Nat) : List Char :=
  if nanos = 0 then []
  else if nanos % 1000000 = 0 then '.' :: Decimal.padded 3 (nanos / 1000000)
  else if nanos % 1000 = 0 then '.' :: Decimal.padded 6 (nanos / 1000)
  else '.' :: Decimal.padded 9 nanos

/-- A time with a fraction of its seconds. -/
def textWith (fraction : List Char) (t : Timestamp) : String :=
  let two := Decimal.padded 2
  String.ofList (yearChars t.date.year ++ '-' :: two t.date.month ++ '-' :: two t.date.day ++
    'T' :: two t.hour ++ ':' :: two t.minute ++ ':' :: two t.second ++ fraction ++ ['Z'])

def text (t : Timestamp) : String := t.textWith (fractionChars t.nanos)

/-- A time to the microsecond. -/
def textToMicros (t : Timestamp) : String := t.textWith ('.' :: Decimal.padded 6 (t.nanos / 1000))

end Timestamp

end Rehearsal
