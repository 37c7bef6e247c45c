import Promptbook.Calendar.Text
import Promptbook.Number.Reading

/-!
# Reading dates and times

Dates and times in the forms of ISO 8601: a day by its month or by its week, with or without dashes, then any
one character, and a time of day with or without colons, with a fraction after a point or a comma, and with an
offset.  What is written is judged in two steps: a text of another form is malformed, and a text of the right
form may still name a month, a day, a time or an offset that does not exist.
-/

namespace Promptbook

open Promptbook.Number Promptbook.Text

/-- Why a text is no date or time. -/
inductive CalendarFault
  | malformed
  | yearRange (year : Nat)
  | monthRange
  | dayRange
  | hourRange
  | minuteRange
  | secondRange
  | offsetRange (offset : Int)
deriving Repr, DecidableEq

/-- The message of a fault, given the text at fault. -/
def CalendarFault.message (cs : List Char) : CalendarFault → List Char
  | malformed => "Invalid isoformat string: ".toList ++ Text.quoted cs
  | yearRange year => "year ".toList ++ natText year ++ " is out of range".toList
  | monthRange => "month must be in 1..12".toList
  | dayRange => "day is out of range for month".toList
  | hourRange => "hour must be in 0..23".toList
  | minuteRange => "minute must be in 0..59".toList
  | secondRange => "second must be in 0..59".toList
  | offsetRange offset =>
    "offset must be a timedelta strictly between -timedelta(hours=24) and timedelta(hours=24), ".toList ++
      "not ".toList ++ DateTime.durationQuoted offset ++ ['.']

/-- Fails unless a condition holds. -/
def CalendarFault.unless (fault : CalendarFault) (condition : Bool) : Except CalendarFault Unit :=
  if condition then .ok () else .error fault

/-- A number of exactly the given count of ASCII digits, and the rest. -/
def readFixed (count : Nat) (cs : List Char) : Except CalendarFault (Nat × List Char) :=
  let ds := cs.take count
  if ds.length == count && ds.all Char.isDigit then
    .ok (ofDigits (ds.filterMap digitValue?), cs.drop count)
  else .error .malformed

/-- Drops the dash between two parts of a day that is written with dashes. -/
def skipDash (dashed : Bool) (cs : List Char) : Except CalendarFault (List Char) :=
  match dashed, cs with
  | false, cs => .ok cs
  | true, '-' :: rest => .ok rest
  | true, _ => .error .malformed

namespace Date

/-- Reads the day of a week; where the text ends it is the first. -/
def readWeekday (dashed : Bool) (cs : List Char) : Except CalendarFault Nat := do
  if cs.isEmpty then return 1
  let (day, _) ← readFixed 1 (← skipDash dashed cs)
  return day

/-- Reads a week of a year with a day of the week.  The calendar begins after the weeks of year zero, so their
days are in no month. -/
def readWeek (year : Nat) (dashed : Bool) (cs : List Char) : Except CalendarFault Date := do
  let (week, rest) ← readFixed 2 cs
  let day ← readWeekday dashed rest
  match ofWeek? (max year 1) week day with
  | none => .error .malformed
  | some d => return if year == 0 then { d with month := 0 } else d

/-- Reads a day off the front of a text, by its month or by its week. -/
def readFront (cs : List Char) : Except CalendarFault Date := do
  let (year, rest) ← readFixed 4 cs
  let dashed := rest.head? == some '-'
  match (if dashed then rest.drop 1 else rest) with
  | 'W' :: rest => readWeek year dashed rest
  | rest =>
    let (month, rest) ← readFixed 2 rest
    let (day, _) ← readFixed 2 (← skipDash dashed rest)
    return ⟨year, month, day⟩

/-- Checks that the calendar has the day. -/
def check (d : Date) : Except CalendarFault Unit := do
  (CalendarFault.yearRange d.year).unless (1 ≤ d.year && d.year ≤ 9999)
  CalendarFault.monthRange.unless (1 ≤ d.month && d.month ≤ 12)
  CalendarFault.dayRange.unless (1 ≤ d.day && d.day ≤ daysInMonth d.year d.month)

/-- The sizes in bytes of the texts that may be a date. -/
def sizes : List Nat := [7, 8, 10]

/-- Reads a text that is a date; its size tells, and what stands after a short form is ignored. -/
def read (cs : List Char) : Except CalendarFault Date := do
  CalendarFault.malformed.unless (sizes.contains (cs.foldl (fun size c => size + c.utf8Size) 0))
  let d ← readFront cs
  d.check
  return d

end Date

namespace DateTime

/-- The number of characters that the day takes in front of a time.  A week without a day and a time are told
from a week with a day by the dash before the time, or by the number of digits in a row. -/
def dayLength (cs : List Char) : Nat :=
  if cs.length == 7 then 7
  else
    match cs.drop 4 with
    | '-' :: 'W' :: _ :: _ :: '-' :: _ :: c :: _ => if c.isDigit then 8 else 10
    | '-' :: 'W' :: _ :: _ :: '-' :: _ => 10
    | '-' :: 'W' :: _ => 8
    | '-' :: _ => 10
    | 'W' :: _ =>
      let size := 7 + ((cs.drop 7).takeWhile Char.isDigit).length
      if size < 9 then size else if size % 2 == 0 then 7 else 8
    | _ => 8

/-- A time of day as it is written: hours, minutes and seconds as far as they are given, microseconds, and
whether the text ends there. -/
structure Clock where
  fields : List Nat
  microsecond : Nat
  isComplete : Bool

namespace Clock

/-- Reads a fraction of a second; digits beyond the sixth are dropped. -/
def readFraction (cs : List Char) : Except CalendarFault Clock :=
  let ds := cs.take 6
  if ds.isEmpty || !ds.all Char.isDigit then .error .malformed
  else
    let micros := (ds ++ List.replicate 6 '0').take 6
    .ok ⟨[], ofDigits (micros.filterMap digitValue?), ((cs.drop 6).dropWhile Char.isDigit).isEmpty⟩

/-- Reads at most `count` fields of two digits, then a fraction.  The character after the first field tells
whether colons separate them; where they do not, a fraction may follow the last field without a point.  A
single ASCII character after a field is left over. -/
def readFields (colons : Option Bool) : Nat → List Char → Except CalendarFault Clock
  | 0, cs => readFraction cs
  | count + 1, cs => do
    let (value, rest) ← readFixed 2 cs
    let clock ← match rest with
      | [] => .ok ⟨[], 0, true⟩
      | c :: more =>
        let separated := colons.getD (c == ':')
        if more.isEmpty && c.toNat < 128 then .ok ⟨[], 0, false⟩
        else if c == '.' || c == ',' then readFraction more
        else if !separated then readFields (some false) count (c :: more)
        else if c == ':' then readFields (some true) count more
        else .error .malformed
    return { clock with fields := value :: clock.fields }

/-- Reads a time of day. -/
def read (cs : List Char) : Except CalendarFault Clock :=
  readFields none 3 cs

/-- A field of the time; one that is not given is zero. -/
def field (clock : Clock) (i : Nat) : Nat :=
  (clock.fields[i]?).getD 0

/-- The whole seconds of the time. -/
def seconds (clock : Clock) : Nat :=
  clock.field 0 * 3600 + clock.field 1 * 60 + clock.field 2

/-- The time as an offset; one of less than a second counts as none. -/
def asOffset (clock : Clock) (negative : Bool) : Int :=
  if clock.seconds == 0 then 0
  else withSign negative (clock.seconds * 1000000 + clock.microsecond)

end Clock

/-- Does the character start an offset? -/
def startsZone (c : Char) : Bool :=
  c == '+' || c == '-' || c == 'Z'

/-- The microseconds of a day. -/
def microsPerDay : Int := secondsPerDay * microsPerSecond

/-- Reads what follows a time of day: nothing, or an offset.  In front of an offset the time need not be
complete. -/
def readZone (clock : Clock) : List Char → Except CalendarFault (Option Int)
  | [] => do
    CalendarFault.malformed.unless clock.isComplete
    return none
  | 'Z' :: rest => do
    CalendarFault.malformed.unless rest.isEmpty
    return some 0
  | sign :: rest => do
    let zone ← Clock.read rest
    CalendarFault.malformed.unless zone.isComplete
    let offset := zone.asOffset (sign == '-')
    (CalendarFault.offsetRange offset).unless (-microsPerDay < offset && offset < microsPerDay)
    return some offset

/-- Reads a time of day with an offset, if one is given. -/
def readClock (cs : List Char) : Except CalendarFault (Clock × Option Int) := do
  let clock ← Clock.read (cs.takeWhile fun c => !startsZone c)
  let offset ← readZone clock (cs.dropWhile fun c => !startsZone c)
  return (clock, offset)

/-- Checks that the day has the time. -/
def check (t : DateTime) : Except CalendarFault Unit := do
  t.date.check
  CalendarFault.hourRange.unless (t.hour < 24)
  CalendarFault.minuteRange.unless (t.minute < 60)
  CalendarFault.secondRange.unless (t.second < 60)

/-- Reads a text that is a date with a time of day; a date alone stands for its midnight. -/
def read (cs : List Char) : Except CalendarFault DateTime := do
  let size := dayLength cs
  let date ← Date.readFront (cs.take size)
  let (clock, offset) ← match cs.drop size with
    | [] => pure (⟨[], 0, true⟩, none)
    | _ :: rest => readClock rest
  let t : DateTime := ⟨date, clock.field 0, clock.field 1, clock.field 2, clock.microsecond, offset⟩
  t.check
  return t

end DateTime
end Promptbook
