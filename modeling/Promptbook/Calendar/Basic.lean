/-!
# Dates and times of day

A date, and a date with a time of day that may carry an offset from universal time.  `Date.ordinal` counts the
days of the calendar, `Date.ofWeek?` finds a day by its week, and `DateTime.instant?` is the moment at which a
clock with an offset shows a time: clocks with different offsets can show the same moment.
-/

namespace Promptbook

/-- A day of the calendar. -/
structure Date where
  year : Nat
  month : Nat
  day : Nat
deriving Repr, DecidableEq

/-- A day with a time of day, and the microseconds by which the clock is ahead of universal time if that is
known. -/
structure DateTime where
  date : Date
  hour : Nat
  minute : Nat
  second : Nat
  microsecond : Nat
  offset : Option Int
deriving Repr, DecidableEq

/-- The microseconds of a second. -/
def microsPerSecond : Int := 1000000

/-- The seconds of a day. -/
def secondsPerDay : Int := 86400

/-- Does the year have a leap day? -/
def isLeapYear (year : Nat) : Bool :=
  year % 4 == 0 && (year % 100 != 0 || year % 400 == 0)

/-- The number of days of a year. -/
def daysInYear (year : Nat) : Nat :=
  if isLeapYear year then 366 else 365

/-- The number of days of a month. -/
def daysInMonth (year month : Nat) : Nat :=
  if month == 2 then if isLeapYear year then 29 else 28
  else if month == 4 || month == 6 || month == 9 || month == 11 then 30
  else 31

/-- The number of days of the months before a month of a year. -/
def daysBeforeMonth (year month : Nat) : Nat :=
  (List.range (month - 1)).foldl (fun days m => days + daysInMonth year (m + 1)) 0

/-- The number of days before a year, from the first day of year one. -/
def daysBeforeYear (year : Nat) : Nat :=
  (year - 1) * 365 + (year - 1) / 4 - (year - 1) / 100 + (year - 1) / 400

namespace Date

/-- The number of the day in the calendar; the first day of year one is day one. -/
def ordinal (d : Date) : Nat :=
  daysBeforeYear d.year + daysBeforeMonth d.year d.month + d.day

/-- The day of the week, from zero for a Monday. -/
def weekday (d : Date) : Nat :=
  (d.ordinal + 6) % 7

/-- Finds the month and the day of the month that a day falls on, counted from zero at the first of the
months. -/
def monthDay? (year : Nat) : List Nat → Nat → Option Date
  | [], _ => none
  | month :: months, n =>
    if n < daysInMonth year month then some ⟨year, month, n + 1⟩
    else monthDay? year months (n - daysInMonth year month)

/-- The day of a year, counted from zero; a negative count goes back into the year before, one beyond the end
into the year after. -/
def ofDayOfYear? (year : Nat) (n : Int) : Option Date :=
  let months := List.range' 1 12
  if n < 0 then monthDay? (year - 1) months (n + Int.ofNat (daysInYear (year - 1))).toNat
  else if n < Int.ofNat (daysInYear year) then monthDay? year months n.toNat
  else monthDay? (year + 1) months (n - Int.ofNat (daysInYear year)).toNat

/-- The number of weeks of a year: the week that holds its fourth day is the first. -/
def weeksInYear (year : Nat) : Nat :=
  let first := weekday ⟨year, 1, 1⟩
  if first == 3 || (first == 2 && isLeapYear year) then 53 else 52

/-- The day of a week of a year, both counted from one. -/
def ofWeek? (year week day : Nat) : Option Date :=
  if year == 0 || week == 0 || weeksInYear year < week || day == 0 || 7 < day then none
  else
    let first := weekday ⟨year, 1, 1⟩
    let monday : Int := if 3 < first then 7 - Int.ofNat first else -Int.ofNat first
    ofDayOfYear? year (monday + Int.ofNat ((week - 1) * 7 + (day - 1)))

end Date

namespace DateTime

/-- The microseconds that a clock shows since the day before the first of year one. -/
def clockMicros (t : DateTime) : Int :=
  let seconds := Int.ofNat t.date.ordinal * secondsPerDay +
    Int.ofNat (t.hour * 3600 + t.minute * 60 + t.second)
  seconds * microsPerSecond + Int.ofNat t.microsecond

/-- The moment in universal time, in microseconds, if the offset of the clock is known. -/
def instant? (t : DateTime) : Option Int :=
  t.offset.map (t.clockMicros - ·)

end DateTime
end Promptbook
