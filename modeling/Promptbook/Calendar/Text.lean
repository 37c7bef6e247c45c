import Promptbook.Calendar.Basic
import Promptbook.Number.Decimal
import Promptbook.Text.Quoted

/-!
# The texts of dates and times

`iso` is the form in which dates and times travel, with `Z` for the offset zero; there an offset has no
seconds.  `text` is the form in which they are shown, with all of an offset, and `quoted` the form of a call.
-/

namespace Promptbook

open Promptbook.Number Promptbook.Text

namespace Date

/-- The date as year, month and day with dashes. -/
def iso (d : Date) : List Char :=
  paddedText 4 d.year ++ '-' :: paddedText 2 d.month ++ '-' :: paddedText 2 d.day

/-- The numbers that make up the date, with commas. -/
def parts (d : Date) : List (List Char) :=
  [natText d.year, natText d.month, natText d.day]

/-- The date in the form of a call. -/
def quoted (d : Date) : List Char :=
  "datetime.date(".toList ++ commaJoined d.parts ++ [')']

end Date

namespace DateTime

/-- The time of day; fractions of a second have six places. -/
def clockText (t : DateTime) : List Char :=
  let fraction := if t.microsecond == 0 then [] else '.' :: paddedText 6 t.microsecond
  paddedText 2 t.hour ++ ':' :: paddedText 2 t.minute ++ ':' :: paddedText 2 t.second ++ fraction

/-- A number of seconds with a sign as hours and minutes. -/
def signedMinutes (negative : Bool) (seconds : Nat) : List Char :=
  (if negative then '-' else '+') :: paddedText 2 (seconds / 3600) ++ ':' :: paddedText 2 (seconds / 60 % 60)

/-- An offset with a sign, with seconds and a fraction of six places if there are any. -/
def offsetText (offset : Int) : List Char :=
  let seconds := offset.natAbs / 1000000
  let micros := offset.natAbs % 1000000
  let fraction := if micros == 0 then [] else '.' :: paddedText 6 micros
  let rest := if seconds % 60 == 0 && micros == 0 then [] else ':' :: paddedText 2 (seconds % 60) ++ fraction
  signedMinutes (offset < 0) seconds ++ rest

/-- An offset as it travels: rounded to seconds, of which only the minutes are written. -/
def wireOffset (offset : Int) : List Char :=
  let seconds := (offset.natAbs + 500000) / 1000000
  if seconds == 0 then ['Z'] else signedMinutes (offset < 0) seconds

/-- The form in which a date with a time travels. -/
def iso (t : DateTime) : List Char :=
  t.date.iso ++ 'T' :: t.clockText ++ (t.offset.map wireOffset).getD []

/-- The form in which a date with a time is shown. -/
def text (t : DateTime) : List Char :=
  t.date.iso ++ ' ' :: t.clockText ++ (t.offset.map offsetText).getD []

/-- A duration in microseconds in the form of a call, split into days, seconds and microseconds of which only
the days may be negative. -/
def durationQuoted (micros : Int) : List Char :=
  let seconds := Int.fdiv micros microsPerSecond
  let part (name : String) (n : Int) : List (List Char) :=
    if n == 0 then [] else [name.toList ++ '=' :: intText n]
  let parts := part "days" (Int.fdiv seconds secondsPerDay) ++
    part "seconds" (Int.fmod seconds secondsPerDay) ++
    part "microseconds" (Int.fmod micros microsPerSecond)
  "datetime.timedelta(".toList ++ (if parts.isEmpty then ['0'] else commaJoined parts) ++ [')']

/-- The time zone in the form of a call. -/
def zoneQuoted (offset : Int) : List Char :=
  if offset == 0 then "datetime.timezone.utc".toList
  else "datetime.timezone(".toList ++ durationQuoted offset ++ [')']

/-- The date with a time in the form of a call; trailing zero seconds are left out. -/
def quoted (t : DateTime) : List Char :=
  let clock := if t.microsecond != 0 then [t.hour, t.minute, t.second, t.microsecond]
    else if t.second != 0 then [t.hour, t.minute, t.second]
    else [t.hour, t.minute]
  let zone := (t.offset.map fun offset => "tzinfo=".toList ++ zoneQuoted offset).toList
  "datetime.datetime(".toList ++ commaJoined (t.date.parts ++ clock.map natText ++ zone) ++ [')']

end DateTime
end Promptbook
