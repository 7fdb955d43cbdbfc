import PatchCoverage.Number.Decimal

namespace PatchCoverage.Yaml

/-!
# Dates and points in time

The two values of a document that no other notation has.  A point in time may
carry its distance from universal time; two points that both carry one are
equal when they are the same instant.
-/

/-- A day of the calendar. -/
structure Date where
  /-- The year, from 1 to 9999. -/
  year : Nat
  /-- The month, from 1 to 12. -/
  month : Nat
  /-- The day of the month. -/
  day : Nat
  deriving DecidableEq, Repr

/-- A point in time. -/
structure Timestamp where
  /-- The day. -/
  date : Date
  /-- The hour, from 0 to 23. -/
  hour : Nat
  /-- The minute, from 0 to 59. -/
  minute : Nat
  /-- The second, from 0 to 59. -/
  second : Nat
  /-- The millionths of a second. -/
  microsecond : Nat
  /-- The distance from universal time in minutes, if it is known. -/
  offset : Option Int
  deriving DecidableEq, Repr

/-- Why numbers make up no date or time. -/
inductive CalendarProblem where
  /-- There is no such year. -/
  | year (value : Nat)
  /-- There is no such month. -/
  | month
  /-- The month has no such day. -/
  | day
  /-- There is no such hour. -/
  | hour
  /-- There is no such minute. -/
  | minute
  /-- There is no such second. -/
  | second
  /-- The distance from universal time is a day or more. -/
  | offset (minutes : Int)
  deriving DecidableEq, Repr

/-- Whether a year has a leap day. -/
def isLeapYear (year : Nat) : Bool :=
  year % 4 == 0 && (year % 100 != 0 || year % 400 == 0)

/-- The number of days of a month. -/
def daysInMonth (year month : Nat) : Nat :=
  if month = 2 then (if isLeapYear year then 29 else 28)
  else if month = 4 ∨ month = 6 ∨ month = 9 ∨ month = 11 then 30
  else 31

/-- The day with the given numbers, if there is one. -/
def Date.of (year month day : Nat) : Except CalendarProblem Date :=
  if year = 0 ∨ 9999 < year then .error (.year year)
  else if month = 0 ∨ 12 < month then .error .month
  else if day = 0 ∨ daysInMonth year month < day then .error .day
  else .ok ⟨year, month, day⟩

/-- The point in time with the given numbers, if there is one. -/
def Timestamp.of (year month day hour minute second microsecond : Nat) (offset : Option Int) :
    Except CalendarProblem Timestamp := do
  match offset with
  | some minutes => if 1440 ≤ minutes.natAbs then throw (.offset minutes)
  | none => pure ()
  let date ← Date.of year month day
  if 23 < hour then .error .hour
  else if 59 < minute then .error .minute
  else if 59 < second then .error .second
  else .ok ⟨date, hour, minute, second, microsecond, offset⟩

/-- Days from the first day of the year 1 to a day. -/
def Date.dayNumber (date : Date) : Nat :=
  let years := date.year - 1
  let monthDays := (List.range (date.month - 1)).foldr
    (fun month days => daysInMonth date.year (month + 1) + days) 0
  years * 365 + years / 4 - years / 100 + years / 400 +
    monthDays + (date.day - 1)

/-- Microseconds of universal time, taking an unknown distance as none. -/
def Timestamp.instant (time : Timestamp) : Int :=
  let minutes : Int := (time.date.dayNumber * 24 + time.hour : Nat) * 60 + time.minute
  ((minutes - time.offset.getD 0) * 60 + time.second) * 1000000 + time.microsecond

/-- Whether two points in time are the same as keys. -/
def Timestamp.same (first second : Timestamp) : Bool :=
  first.offset.isSome == second.offset.isSome && first.instant == second.instant

/-- A number in decimal digits with zeros in front up to a width. -/
def paddedNumber (width value : Nat) : String :=
  let digits := decimalDigits value
  String.ofList (List.replicate (width - digits.length) '0' ++ digits)

/-- A day as year, month and day with dashes. -/
def Date.text (date : Date) : String :=
  paddedNumber 4 date.year ++ "-" ++ paddedNumber 2 date.month ++ "-" ++ paddedNumber 2 date.day

/-- A distance from universal time as hours and minutes. -/
def offsetText (minutes : Int) : String :=
  (if minutes < 0 then "-" else "+") ++ paddedNumber 2 (minutes.natAbs / 60) ++ ":" ++
    paddedNumber 2 (minutes.natAbs % 60)

/-- A point in time as date, time and distance, with what stands between date
and time. -/
def Timestamp.text (separator : String) (time : Timestamp) : String :=
  time.date.text ++ separator ++ paddedNumber 2 time.hour ++ ":" ++ paddedNumber 2 time.minute ++
    ":" ++ paddedNumber 2 time.second ++
    (if time.microsecond = 0 then "" else "." ++ paddedNumber 6 time.microsecond) ++
    ((time.offset.map offsetText).getD "")

/-- A list of numbers with commas. -/
def commaSeparated (numbers : List Nat) : String :=
  ", ".intercalate (numbers.map fun (number : Nat) => integerText number)

/-- A span of minutes as days and seconds, of which only days can be negative. -/
def spanText (minutes : Int) : String :=
  let days := Int.fdiv minutes 1440
  let seconds := Int.fmod minutes 1440 * 60
  let parts :=
    (if days = 0 then [] else ["days=" ++ integerText days]) ++
      (if seconds = 0 then [] else ["seconds=" ++ integerText seconds])
  "datetime.timedelta(" ++ (if parts.isEmpty then "0" else ", ".intercalate parts) ++ ")"

/-- A day as messages show it. -/
def Date.shown (date : Date) : String :=
  "datetime.date(" ++ commaSeparated [date.year, date.month, date.day] ++ ")"

/-- A point in time as messages show it: seconds and their fraction are left
out when they are zero. -/
def Timestamp.shown (time : Timestamp) : String :=
  let seconds :=
    if time.microsecond = 0 then (if time.second = 0 then [] else [time.second])
    else [time.second, time.microsecond]
  let zone :=
    match time.offset with
    | none => ""
    | some minutes =>
      ", tzinfo=" ++
        (if minutes = 0 then "datetime.timezone.utc"
        else "datetime.timezone(" ++ spanText minutes ++ ")")
  "datetime.datetime(" ++
    commaSeparated
      ([time.date.year, time.date.month, time.date.day, time.hour, time.minute] ++ seconds) ++
    zone ++ ")"

/-- The wording of a problem. -/
def CalendarProblem.message : CalendarProblem → String
  | year value => "year " ++ integerText value ++ " is out of range"
  | month => "month must be in 1..12"
  | day => "day is out of range for month"
  | hour => "hour must be in 0..23"
  | minute => "minute must be in 0..59"
  | second => "second must be in 0..59"
  | offset minutes =>
    "offset must be a timedelta strictly between -timedelta(hours=24) and " ++
      "timedelta(hours=24), not " ++ spanText minutes ++ "."

end PatchCoverage.Yaml
