/-!
# Dates and timestamps

Days of the Gregorian calendar from year 1 to year 9999, and times of such days with
microseconds and an optional offset from universal time. Both are made from their parts by
functions that say which part is out of range.
-/

namespace RouteTypes

/-- A day of the calendar. -/
structure Date where
  year : Nat
  month : Nat
  day : Nat
  deriving DecidableEq, Repr

/-- A time of a day. The offset, in minutes, tells how far the clock is ahead of universal
time. -/
structure Timestamp where
  date : Date
  hour : Nat
  minute : Nat
  second : Nat
  microsecond : Nat
  offset : Option Int
  deriving DecidableEq, Repr

namespace Calendar

/-- A part of a date or timestamp that is out of range. -/
inductive Fault where
  | year (value : Nat)
  | month
  | day
  | hour
  | minute
  | second
  | offset (minutes : Int)
  deriving DecidableEq, Repr

/-- A year with a 29th of February. -/
def isLeap (year : Nat) : Bool :=
  year % 4 == 0 && (year % 100 != 0 || year % 400 == 0)

/-- The number of days of a month. -/
def daysIn (year month : Nat) : Nat :=
  if month == 2 then if isLeap year then 29 else 28
  else if month == 4 || month == 6 || month == 9 || month == 11 then 30
  else 31

/-- The day with the given parts. -/
def date (year month day : Nat) : Except Fault Date :=
  if year = 0 ∨ 9999 < year then .error (.year year)
  else if month = 0 ∨ 12 < month then .error .month
  else if day = 0 ∨ daysIn year month < day then .error .day
  else .ok ⟨year, month, day⟩

/-- The time with the given parts; the offset is checked before all others. -/
def timestamp (year month day hour minute second microsecond : Nat) (offset : Option Int) :
    Except Fault Timestamp := do
  if let some minutes := offset then
    if 24 * 60 ≤ minutes.natAbs then throw (.offset minutes)
  let date ← date year month day
  if 23 < hour then throw .hour
  if 59 < minute then throw .minute
  if 59 < second then throw .second
  return ⟨date, hour, minute, second, microsecond, offset⟩

/-- The number of days before a day, counted from the first day of year 1. -/
def dayNumber (date : Date) : Nat :=
  let years := date.year - 1
  let months := (List.range (date.month - 1)).foldl
    (fun days month => days + daysIn date.year (month + 1)) 0
  years * 365 + years / 4 - years / 100 + years / 400 + months + (date.day - 1)

/-- The number of microseconds before a time on its own clock. -/
def clock (time : Timestamp) : Int :=
  (((dayNumber time.date * 24 + time.hour) * 60 + time.minute) * 60 + time.second) * 1000000
    + time.microsecond

/-- Times with offsets are the same when they are the same instant; times without are the same
when their clocks agree; one with and one without an offset never are. -/
def sameTime (left right : Timestamp) : Bool :=
  match left.offset, right.offset with
  | some ahead, some ahead' =>
    clock left - ahead * 60000000 == clock right - ahead' * 60000000
  | none, none => clock left == clock right
  | _, _ => false

/-- A number with leading zeros. -/
def padded (width value : Nat) : String :=
  let digits := Nat.toDigits 10 value
  String.ofList (List.replicate (width - digits.length) '0' ++ digits)

/-- The length of time as days and seconds, where only the days are negative. -/
def durationText (minutes : Int) : String :=
  let days := Int.fdiv minutes 1440
  let seconds := Int.fmod minutes 1440 * 60
  let parts := (if days == 0 then [] else [s!"days={days}"]) ++
    (if seconds == 0 then [] else [s!"seconds={seconds}"])
  "datetime.timedelta(" ++ (if parts.isEmpty then "0" else ", ".intercalate parts) ++ ")"

/-- What the reader of a date or timestamp is told. -/
def Fault.message : Fault → String
  | .year value => s!"year {value} is out of range"
  | .month => "month must be in 1..12"
  | .day => "day is out of range for month"
  | .hour => "hour must be in 0..23"
  | .minute => "minute must be in 0..59"
  | .second => "second must be in 0..59"
  | .offset minutes =>
    "offset must be a timedelta strictly between -timedelta(hours=24) and " ++
      "timedelta(hours=24), not " ++ durationText minutes

end Calendar

/-- The day as year, month and day. -/
def Date.text (date : Date) : String :=
  Calendar.padded 4 date.year ++ "-" ++ Calendar.padded 2 date.month ++ "-" ++
    Calendar.padded 2 date.day

/-- The day as it is shown inside of other values. -/
def Date.shown (date : Date) : String :=
  s!"datetime.date({date.year}, {date.month}, {date.day})"

/-- The offset of a clock as hours and minutes. -/
def Timestamp.offsetText (time : Timestamp) : String :=
  match time.offset with
  | none => ""
  | some minutes =>
    (if minutes < 0 then "-" else "+") ++ Calendar.padded 2 (minutes.natAbs / 60) ++ ":" ++
      Calendar.padded 2 (minutes.natAbs % 60)

/-- The time with a separator between day and clock; microseconds are shown unless zero. -/
def Timestamp.text (separator : String) (time : Timestamp) : String :=
  time.date.text ++ separator ++ Calendar.padded 2 time.hour ++ ":" ++
    Calendar.padded 2 time.minute ++ ":" ++ Calendar.padded 2 time.second ++
    (if time.microsecond == 0 then "" else "." ++ Calendar.padded 6 time.microsecond) ++
    time.offsetText

/-- The time as it is shown inside of other values. -/
def Timestamp.shown (time : Timestamp) : String :=
  let clock :=
    if time.microsecond != 0 then [time.hour, time.minute, time.second, time.microsecond]
    else if time.second != 0 then [time.hour, time.minute, time.second]
    else [time.hour, time.minute]
  let parts := ([time.date.year, time.date.month, time.date.day] ++ clock).map toString
  let zone := match time.offset with
    | none => []
    | some 0 => ["tzinfo=datetime.timezone.utc"]
    | some minutes => ["tzinfo=datetime.timezone(" ++ Calendar.durationText minutes ++ ")"]
  "datetime.datetime(" ++ ", ".intercalate (parts ++ zone) ++ ")"

end RouteTypes
