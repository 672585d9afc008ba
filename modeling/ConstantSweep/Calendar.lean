import ConstantSweep.Text.Quoted

set_option autoImplicit false

namespace ConstantSweep

open ConstantSweep.Text

structure Date where
  year : Nat
  month : Nat
  day : Nat
  deriving DecidableEq, Repr, Inhabited

-- A date with a time of day and, if it is known, the distance from universal time in seconds.
structure Moment where
  date : Date
  hour : Nat
  minute : Nat
  second : Nat
  microsecond : Nat
  offset : Option Int
  deriving DecidableEq, Repr, Inhabited

inductive CalendarFault where
  | year (number : Nat)
  | month
  | day
  | hour
  | minute
  | second
  | offset (seconds : Int)
  deriving DecidableEq, Repr

namespace Calendar

def isLeapYear (year : Nat) : Bool := year % 4 == 0 && (year % 100 != 0 || year % 400 == 0)

def daysInMonth (year month : Nat) : Nat :=
  if month == 2 then if isLeapYear year then 29 else 28
  else if month == 4 || month == 6 || month == 9 || month == 11 then 30
  else 31

def daySeconds : Int := 86400

def padded (width number : Nat) : String := String.ofList (digitsIn 10 width number)

def spanLiteral (seconds : Int) : String :=
  let days := Int.fdiv seconds daySeconds
  let rest := Int.fmod seconds daySeconds
  let parts := (if days == 0 then [] else ["days=" ++ toString days]) ++
    (if rest == 0 then [] else ["seconds=" ++ toString rest])
  "datetime.timedelta(" ++ (if parts.isEmpty then "0" else ", ".intercalate parts) ++ ")"

end Calendar

open Calendar

def CalendarFault.message : CalendarFault → String
  | .year number => "year " ++ toString number ++ " is out of range"
  | .month => "month must be in 1..12"
  | .day => "day is out of range for month"
  | .hour => "hour must be in 0..23"
  | .minute => "minute must be in 0..59"
  | .second => "second must be in 0..59"
  | .offset seconds =>
      "offset must be a timedelta strictly between -timedelta(hours=24) and timedelta(hours=24), not " ++
        spanLiteral seconds ++ "."

namespace Date

def make (year month day : Nat) : Except CalendarFault Date :=
  if year < 1 || 9999 < year then .error (.year year)
  else if month < 1 || 12 < month then .error .month
  else if day < 1 || daysInMonth year month < day then .error .day
  else .ok ⟨year, month, day⟩

def text (date : Date) : String :=
  padded 4 date.year ++ "-" ++ padded 2 date.month ++ "-" ++ padded 2 date.day

-- The date some days after the first of January 1970. Years are counted from March on, so that the day
-- that leap years add is the last of its year.
def ofDays (days : Nat) : Date :=
  let shifted := days + 719468
  let inEra := shifted % 146097
  let yearOfEra := (inEra - inEra / 1460 + inEra / 36524 - inEra / 146096) / 365
  let dayOfYear := inEra - (365 * yearOfEra + yearOfEra / 4 - yearOfEra / 100)
  let shiftedMonth := (5 * dayOfYear + 2) / 153
  let month := if shiftedMonth < 10 then shiftedMonth + 3 else shiftedMonth - 9
  { year := yearOfEra + shifted / 146097 * 400 + (if month ≤ 2 then 1 else 0)
    month := month
    day := dayOfYear - (153 * shiftedMonth + 2) / 5 + 1 }

-- The number of days before the date, counted from the first of March of the year zero. Years begin in
-- March here too.
def dayNumber (date : Date) : Nat :=
  let year := if date.month < 3 then date.year - 1 else date.year
  let month := (date.month + 9) % 12
  365 * year + year / 4 - year / 100 + year / 400 + (153 * month + 2) / 5 + date.day - 1

def literal (date : Date) : String :=
  s!"datetime.date({date.year}, {date.month}, {date.day})"

end Date

namespace Moment

-- The moment, if all its parts are in range. The distance from universal time is examined first.
def make (year month day hour minute second microsecond : Nat) (offset : Option Int) :
    Except CalendarFault Moment :=
  let far := offset.filter fun seconds => seconds ≤ -daySeconds || daySeconds ≤ seconds
  match far with
  | some seconds => .error (.offset seconds)
  | none =>
      match Date.make year month day with
      | .error fault => .error fault
      | .ok date =>
          if 23 < hour then .error .hour
          else if 59 < minute then .error .minute
          else if 59 < second then .error .second
          else .ok ⟨date, hour, minute, second, microsecond, offset⟩

def offsetText (seconds : Int) : String :=
  let size := seconds.natAbs
  (if seconds < 0 then "-" else "+") ++ padded 2 (size / 3600) ++ ":" ++ padded 2 (size / 60 % 60) ++
    (if size % 60 == 0 then "" else ":" ++ padded 2 (size % 60))

def ofMicroseconds (count : Nat) : Moment :=
  let seconds := count / 1000000
  { date := .ofDays (seconds / 86400)
    hour := seconds / 3600 % 24
    minute := seconds / 60 % 60
    second := seconds % 60
    microsecond := count % 1000000
    offset := some 0 }

def textWith (between : String) (moment : Moment) : String :=
  moment.date.text ++ between ++ padded 2 moment.hour ++ ":" ++ padded 2 moment.minute ++ ":" ++
    padded 2 moment.second ++
    (if moment.microsecond == 0 then "" else "." ++ padded 6 moment.microsecond) ++
    (match moment.offset with
      | none => ""
      | some seconds => offsetText seconds)

def text (moment : Moment) : String := moment.textWith " "

-- Microseconds in universal time up to the moment, if its distance from universal time is known.
def instant? (moment : Moment) : Option Int :=
  moment.offset.map fun offset =>
    let seconds : Int := (((moment.date.dayNumber * 24 + moment.hour) * 60 + moment.minute) * 60 + moment.second : Nat)
    (seconds - offset) * 1000000 + moment.microsecond

-- Two moments are the same instant, or the same local time where the distance from universal time is not
-- known.
def isSame (left right : Moment) : Bool :=
  match left.instant?, right.instant? with
  | some left, some right => left == right
  | none, none => left == right
  | _, _ => false

def stamp (moment : Moment) : String := moment.textWith "T"

def zoneLiteral (seconds : Int) : String :=
  if seconds == 0 then "datetime.timezone.utc"
  else "datetime.timezone(" ++ spanLiteral seconds ++ ")"

def literal (moment : Moment) : String :=
  let parts := [moment.date.year, moment.date.month, moment.date.day, moment.hour, moment.minute] ++
    (if moment.microsecond == 0 then
      (if moment.second == 0 then [] else [moment.second])
     else [moment.second, moment.microsecond])
  let zone := match moment.offset with
    | none => []
    | some seconds => ["tzinfo=" ++ zoneLiteral seconds]
  "datetime.datetime(" ++ ", ".intercalate (parts.map toString ++ zone) ++ ")"

end Moment

end ConstantSweep
