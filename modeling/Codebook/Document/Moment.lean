/-!
# Days and moments

A day of the calendar, its rules for leap years applied to all years from 1 on, and a moment: a day with
a time of day to the microsecond and, if it is known, the distance of local time from universal time.
Two moments are the same when they are written alike, or when both distances are known and universal
time is the same.
-/

namespace Codebook

/-- A day of the calendar. -/
structure Day where
  year : Nat
  month : Nat
  day : Nat
deriving Repr, DecidableEq

/-- A day and a time of day; `offset` counts the minutes by which local time is ahead. -/
structure Moment where
  day : Day
  hour : Nat
  minute : Nat
  second : Nat
  microsecond : Nat
  offset : Option Int
deriving Repr, DecidableEq

/-! ## Errors -/

/-- Why numbers do not make a day or a moment. -/
inductive CalendarError where
  | year (year : Nat)
  | month
  | day
  | hour
  | minute
  | second
  | offset (minutes : Int)
deriving Repr, DecidableEq

namespace Moment

/-- The number of seconds in a day. -/
def daySeconds : Int := 86400

/-- A span of minutes, as whole days and the seconds after them. -/
def spanText (minutes : Int) : String :=
  let days := Int.fdiv (60 * minutes) daySeconds
  let seconds := Int.fmod (60 * minutes) daySeconds
  let parts :=
    (if days == 0 then [] else ["days=" ++ toString days])
      ++ (if seconds == 0 then [] else ["seconds=" ++ toString seconds])
  "datetime.timedelta(" ++ (if parts.isEmpty then "0" else ", ".intercalate parts) ++ ")"

end Moment

namespace CalendarError

/-- The message of an error. -/
def message : CalendarError → String
  | year y => "year " ++ toString y ++ " is out of range"
  | month => "month must be in 1..12"
  | day => "day is out of range for month"
  | hour => "hour must be in 0..23"
  | minute => "minute must be in 0..59"
  | second => "second must be in 0..59"
  | offset minutes =>
    "offset must be a timedelta strictly between -timedelta(hours=24) and timedelta(hours=24), not "
      ++ Moment.spanText minutes ++ "."

end CalendarError

/-! ## Digits -/

/-- The decimal text of a number, filled up with zeros to a width. -/
def padded (width n : Nat) : String :=
  let digits := (toString n).toList
  String.ofList (List.replicate (width - digits.length) '0' ++ digits)

/-! ## Days -/

namespace Day

/-- The greatest year. -/
def lastYear : Nat := 9999

/-- Whether a year has a day more. -/
def isLeapYear (year : Nat) : Bool :=
  year % 4 == 0 && (year % 100 != 0 || year % 400 == 0)

/-- The number of days of a month. -/
def daysOfMonth (year month : Nat) : Nat :=
  if month == 2 then if isLeapYear year then 29 else 28
  else if [4, 6, 9, 11].contains month then 30
  else 31

/-- The day with a year, a month and a day of the month. -/
def ofParts (year month day : Nat) : Except CalendarError Day :=
  if year == 0 || lastYear < year then .error (.year year)
  else if month == 0 || 12 < month then .error .month
  else if day == 0 || daysOfMonth year month < day then .error .day
  else .ok ⟨year, month, day⟩

/-- The number of days from the beginning of the year 1 up to a day. -/
def ordinal (d : Day) : Nat :=
  let years := d.year - 1
  let months := (List.range (d.month - 1)).foldl (fun days m => days + daysOfMonth d.year (m + 1)) 0
  365 * years + years / 4 - years / 100 + years / 400 + months + d.day

/-- The form of a day in messages. -/
def shown (d : Day) : String :=
  "datetime.date(" ++ ", ".intercalate ([d.year, d.month, d.day].map toString) ++ ")"

/-- The plain text of a day. -/
def text (d : Day) : String :=
  padded 4 d.year ++ "-" ++ padded 2 d.month ++ "-" ++ padded 2 d.day

end Day

/-! ## Moments -/

namespace Moment

/-- The moment on a day at a time of day. -/
def ofParts (day : Day) (hour minute second microsecond : Nat) (offset : Option Int) :
    Except CalendarError Moment :=
  if 23 < hour then .error .hour
  else if 59 < minute then .error .minute
  else if 59 < second then .error .second
  else .ok ⟨day, hour, minute, second, microsecond, offset⟩

/-- Whether a distance from universal time is less than a day. -/
def isOffset (minutes : Int) : Bool :=
  60 * minutes.natAbs < daySeconds.natAbs

/-- The microseconds up to a moment, in universal time if the distance from it is known. -/
def reckoned (m : Moment) : Int :=
  let minutes : Int := ((m.day.ordinal * 24 + m.hour) * 60 + m.minute : Nat) - m.offset.getD 0
  (minutes * 60 + m.second) * 1000000 + m.microsecond

/-- Whether two moments are the same. -/
def isSame (m n : Moment) : Bool :=
  m.offset.isSome == n.offset.isSome && m.reckoned == n.reckoned

/-- The form of a moment in messages. -/
def shown (m : Moment) : String :=
  let seconds :=
    if m.microsecond != 0 then [m.second, m.microsecond]
    else if m.second != 0 then [m.second]
    else []
  let zone :=
    match m.offset with
    | none => ""
    | some 0 => ", tzinfo=datetime.timezone.utc"
    | some minutes => ", tzinfo=datetime.timezone(" ++ spanText minutes ++ ")"
  "datetime.datetime("
    ++ ", ".intercalate (([m.day.year, m.day.month, m.day.day, m.hour, m.minute] ++ seconds).map toString)
    ++ zone ++ ")"

/-- The plain text of a distance from universal time. -/
def offsetText (minutes : Int) : String :=
  let size := minutes.natAbs
  (if minutes < 0 then "-" else "+") ++ padded 2 (size / 60) ++ ":" ++ padded 2 (size % 60)

/-- The plain text of a moment. -/
def text (m : Moment) : String :=
  m.day.text ++ " " ++ padded 2 m.hour ++ ":" ++ padded 2 m.minute ++ ":" ++ padded 2 m.second
    ++ (if m.microsecond == 0 then "" else "." ++ padded 6 m.microsecond)
    ++ (m.offset.map offsetText).getD ""

end Moment

end Codebook
