import Automation.Text.Numeral
/-!
# Moments

A moment is a date and a time of day in UTC, to the nanosecond. Its fields are kept as they are
written, so that a leap second is a second sixty, and two moments are ordered by their fields.
-/

namespace Automation

open Text

/-- A date and a time of day in UTC. -/
structure Moment where
  year : Int
  month : Nat
  day : Nat
  hour : Nat
  minute : Nat
  second : Nat
  nanos : Nat
  deriving DecidableEq, Repr, Inhabited

namespace Moment

/-- A year with a leap day. -/
def isLeapYear (y : Int) : Bool :=
  y % 4 == 0 && (y % 100 != 0 || y % 400 == 0)

/-- The number of days of a month. -/
def daysIn (y : Int) (month : Nat) : Nat :=
  if month = 2 then (if isLeapYear y then 29 else 28)
  else if month = 4 ∨ month = 6 ∨ month = 9 ∨ month = 11 then 30
  else 31

/-- The moment one day later. -/
def nextDay (m : Moment) : Moment :=
  if m.day < daysIn m.year m.month then { m with day := m.day + 1 }
  else if m.month < 12 then { m with month := m.month + 1, day := 1 }
  else { m with year := m.year + 1, month := 1, day := 1 }

/-- The moment one day earlier. -/
def previousDay (m : Moment) : Moment :=
  if m.day > 1 then { m with day := m.day - 1 }
  else if m.month > 1 then { m with month := m.month - 1, day := daysIn m.year (m.month - 1) }
  else { m with year := m.year - 1, month := 12, day := 31 }

/-- The moment some days later. -/
def laterByDays : Nat → Moment → Moment
  | 0, m => m
  | n + 1, m => laterByDays n m.nextDay

/-- The milliseconds of a day. -/
def dayMillis : Nat := 86400000

/-- The moment some milliseconds later. -/
def later (m : Moment) (millis : Nat) : Moment :=
  let total := ((m.hour * 60 + m.minute) * 60 + m.second) * 1000 + m.nanos / 1000000 + millis
  let clock := total % dayMillis
  { laterByDays (total / dayMillis) m with
    hour := clock / 3600000
    minute := clock / 60000 % 60
    second := clock / 1000 % 60
    nanos := clock % 1000 * 1000000 + m.nanos % 1000000 }

/-- The number of a day, counted from the start of the year one. -/
def dayNumber (m : Moment) : Int :=
  let years := m.year - 1
  let months := (List.range' 1 (m.month - 1)).foldl (fun n month => n + daysIn m.year month) 0
  years * 365 + years / 4 - years / 100 + years / 400 + (months + m.day : Nat)

/-- The nanoseconds since the start of the year one. -/
def totalNanos (m : Moment) : Int :=
  (((m.dayNumber * 24 + m.hour) * 60 + m.minute) * 60 + m.second) * 1000000000 + m.nanos

/-- The whole milliseconds from one moment to another. -/
def millisSince (m earlier : Moment) : Int :=
  (m.totalNanos - earlier.totalNanos).tdiv 1000000

/-- A local time with an offset from UTC in minutes, of less than a day, as a moment. -/
def ofLocal (m : Moment) (offset : Int) : Moment :=
  let total : Int := (m.hour * 60 + m.minute : Nat) - offset
  let clock (minutes : Int) (m : Moment) : Moment :=
    { m with hour := minutes.toNat / 60, minute := minutes.toNat % 60 }
  if total < 0 then clock (total + 1440) m.previousDay
  else if total ≥ 1440 then clock (total - 1440) m.nextDay
  else clock total m

/-- The fields from the year down to the nanosecond. -/
def fields (m : Moment) : List Int :=
  [m.year, m.month, m.day, m.hour, m.minute, m.second, m.nanos]

/-- The order of lists of fields: the first difference decides. -/
def compareFields : List Int → List Int → Ordering
  | a :: as, b :: bs => if a < b then .lt else if b < a then .gt else compareFields as bs
  | _, _ => .eq

/-- The order of two moments. -/
def order (a b : Moment) : Ordering :=
  compareFields a.fields b.fields

/-- The digits of a number, with zeros in front up to a width. -/
def padded (width n : Nat) : List Char :=
  let ds := digits n
  List.replicate (width - ds.length) '0' ++ ds

/-- The year of four digits, or with a sign if it needs more or is negative. -/
def yearText (y : Int) : List Char :=
  if 0 ≤ y ∧ y ≤ 9999 then padded 4 y.toNat
  else (if y < 0 then '-' else '+') :: padded 4 y.natAbs

/-- The fraction of a second with three, six or nine digits, whatever is exact, or nothing. -/
def fractionText (nanos : Nat) : List Char :=
  if nanos = 0 then []
  else if nanos % 1000000 = 0 then '.' :: padded 3 (nanos / 1000000)
  else if nanos % 1000 = 0 then '.' :: padded 6 (nanos / 1000)
  else '.' :: padded 9 nanos

/-- The characters of a moment's text. -/
def write (m : Moment) : List Char :=
  yearText m.year ++ '-' :: (padded 2 m.month ++ '-' :: (padded 2 m.day ++ 'T' ::
    (padded 2 m.hour ++ ':' :: (padded 2 m.minute ++ ':' :: (padded 2 m.second ++
      (fractionText m.nanos ++ ['Z']))))))

/-- The text of a moment, such as `2026-03-01T12:00:00.250Z`. -/
def text (m : Moment) : String :=
  String.ofList (write m)

end Moment

end Automation
