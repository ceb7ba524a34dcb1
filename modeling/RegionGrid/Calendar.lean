/-!
# Dates and times

Days of the Gregorian calendar from the year 1 to the year 9999, and times of day with a fraction of
six digits and possibly an offset from universal time. Both have two texts: the one that shows what
they are, and the plain one.
-/

namespace RegionGrid

inductive CalendarError where
  | year (year : Nat)
  | month
  | day
  | hour
  | minute
  | second
  /-- An offset of a day or more, in minutes. -/
  | offset (minutes : Int)
  deriving DecidableEq, Repr

/-- A number in decimal with at least the given count of digits. -/
def paddedText (width n : Nat) : String :=
  let digits := Nat.toDigits 10 n
  String.ofList (List.replicate (width - digits.length) '0' ++ digits)

def isLeapYear (year : Nat) : Bool := year % 4 == 0 && (year % 100 != 0 || year % 400 == 0)

def daysInMonth (year month : Nat) : Nat :=
  if month = 2 then (if isLeapYear year then 29 else 28)
  else if month = 4 ∨ month = 6 ∨ month = 9 ∨ month = 11 then 30
  else 31

structure Date where
  (year month day : Nat)
  deriving DecidableEq, Repr

namespace Date

/-- The day with these numbers, of which the year has at most four digits. -/
def ofNumbers (year month day : Nat) : Except CalendarError Date :=
  if year = 0 then .error (.year year)
  else if month = 0 ∨ 12 < month then .error .month
  else if day = 0 ∨ daysInMonth year month < day then .error .day
  else .ok ⟨year, month, day⟩

/-- How many days of the calendar come before the day. -/
def ordinal (d : Date) : Nat :=
  let years := d.year - 1
  let months := (List.range' 1 (d.month - 1)).map (daysInMonth d.year)
  years * 365 + years / 4 - years / 100 + years / 400 + months.foldl (· + ·) 0 + (d.day - 1)

def text (d : Date) : String :=
  s!"{paddedText 4 d.year}-{paddedText 2 d.month}-{paddedText 2 d.day}"

def literal (d : Date) : String := s!"datetime.date({d.year}, {d.month}, {d.day})"

end Date

structure Moment where
  date : Date
  (hour minute second microsecond : Nat)
  /-- The minutes by which the clock is ahead of universal time, if that is known. -/
  offset? : Option Int
  deriving DecidableEq, Repr

namespace Moment

def minutesPerDay : Nat := 1440

/-- The time with these numbers. The offset is checked first, then the day. -/
def ofNumbers (year month day hour minute second microsecond : Nat) (offset? : Option Int) :
    Except CalendarError Moment := do
  if let some offset := offset? then
    if minutesPerDay ≤ offset.natAbs then throw (.offset offset)
  let date ← Date.ofNumbers year month day
  if 23 < hour then throw .hour
  if 59 < minute then throw .minute
  if 59 < second then throw .second
  return ⟨date, hour, minute, second, microsecond, offset?⟩

/-- The microseconds from the start of the calendar, by universal time if the offset is known. -/
def instant (m : Moment) : Int :=
  let minutes : Int := (m.date.ordinal * 24 + m.hour) * 60 + m.minute
  ((minutes - m.offset?.getD 0) * 60 + m.second) * 1000000 + m.microsecond

/--
Whether two times are the same. Times whose offsets are known are the same at the same instant, and a
time whose offset is not known is never the same as one whose offset is.
-/
def same (a b : Moment) : Bool := a.offset?.isSome == b.offset?.isSome && a.instant == b.instant

private def offsetText (offset : Int) : String :=
  let size := offset.natAbs
  (if offset < 0 then "-" else "+") ++ s!"{paddedText 2 (size / 60)}:{paddedText 2 (size % 60)}"

def text (m : Moment) : String :=
  s!"{m.date.text} {paddedText 2 m.hour}:{paddedText 2 m.minute}:{paddedText 2 m.second}" ++
    (if m.microsecond = 0 then "" else "." ++ paddedText 6 m.microsecond) ++
    m.offset?.elim "" offsetText

end Moment

/-- A span of minutes in days and the seconds of the last one, which are not negative. -/
def spanLiteral (minutes : Int) : String :=
  let days := minutes.fdiv Moment.minutesPerDay
  let seconds := minutes.fmod Moment.minutesPerDay * 60
  let parts := (if days = 0 then [] else [s!"days={days}"]) ++
    (if seconds = 0 then [] else [s!"seconds={seconds}"])
  if parts.isEmpty then "datetime.timedelta(0)"
  else "datetime.timedelta(" ++ ", ".intercalate parts ++ ")"

namespace Moment

private def zoneLiteral (offset : Int) : String :=
  if offset = 0 then "datetime.timezone.utc" else s!"datetime.timezone({spanLiteral offset})"

/-- The text that shows what a time is. Seconds and their fraction are shown as far as needed. -/
def literal (m : Moment) : String :=
  let seconds :=
    if m.microsecond ≠ 0 then [m.second, m.microsecond]
    else if m.second ≠ 0 then [m.second]
    else []
  let numbers := [m.date.year, m.date.month, m.date.day, m.hour, m.minute] ++ seconds
  let zone := m.offset?.elim "" fun offset => s!", tzinfo={zoneLiteral offset}"
  "datetime.datetime(" ++ ", ".intercalate (numbers.map toString) ++ zone ++ ")"

end Moment

namespace CalendarError

def message : CalendarError → String
  | year n => s!"year {n} is out of range"
  | month => "month must be in 1..12"
  | day => "day is out of range for month"
  | hour => "hour must be in 0..23"
  | minute => "minute must be in 0..59"
  | second => "second must be in 0..59"
  | offset minutes =>
    "offset must be a timedelta strictly between -timedelta(hours=24) and " ++
      s!"timedelta(hours=24), not {spanLiteral minutes}."

end CalendarError

end RegionGrid
