/-!
# Dates and times of day

Dates of the proleptic Gregorian calendar in the years 1 to 9999, times with microseconds, and the
texts of both: as written in a document and as shown inside a list.
-/

namespace ActorSpec

structure Date where
  year : Nat
  month : Nat
  day : Nat
deriving DecidableEq

/-- A date and a time of day, with the minutes by which its clock is ahead of universal time if it
tells. -/
structure Timestamp where
  date : Date
  hour : Nat
  minute : Nat
  second : Nat
  microsecond : Nat
  offset : Option Int
deriving DecidableEq

/-- What is wrong with the parts of a date or a time. -/
inductive CalendarFault where
  | year (n : Nat)
  | month
  | day
  | hour
  | minute
  | second
  | offset (minutes : Int)
deriving DecidableEq

/-- `n` in decimal with zeros in front up to a width. -/
def padded (width n : Nat) : String :=
  let digits := Nat.toDigits 10 n
  String.ofList (List.replicate (width - digits.length) '0' ++ digits)

def isLeapYear (year : Nat) : Bool := year % 4 == 0 && (year % 100 != 0 || year % 400 == 0)

def daysInMonth (year month : Nat) : Nat :=
  if month = 2 then (if isLeapYear year then 29 else 28)
  else if month = 4 ∨ month = 6 ∨ month = 9 ∨ month = 11 then 30
  else 31

namespace Date

/-- The date with these parts; the year is looked at first and the day last. -/
def ofParts (year month day : Nat) : Except CalendarFault Date :=
  if year = 0 ∨ 9999 < year then .error (.year year)
  else if month = 0 ∨ 12 < month then .error .month
  else if day = 0 ∨ daysInMonth year month < day then .error .day
  else .ok ⟨year, month, day⟩

/-- Days since the last day before the year 1. -/
def ordinal (d : Date) : Nat :=
  let y := d.year - 1
  y * 365 + y / 4 - y / 100 + y / 400 +
    (List.range (d.month - 1)).foldl (fun days m => days + daysInMonth d.year (m + 1)) 0 + d.day

def text (d : Date) : String :=
  padded 4 d.year ++ "-" ++ padded 2 d.month ++ "-" ++ padded 2 d.day

def parts (d : Date) : String :=
  toString d.year ++ ", " ++ toString d.month ++ ", " ++ toString d.day

def shown (d : Date) : String := "datetime.date(" ++ d.parts ++ ")"

end Date

namespace Timestamp

/-- The timestamp with these parts, which are looked at in this order. -/
def ofParts (year month day hour minute second microsecond : Nat) (offset : Option Int) :
    Except CalendarFault Timestamp := do
  if let some minutes := offset then
    if 1440 ≤ minutes.natAbs then throw (.offset minutes)
  let date ← Date.ofParts year month day
  if 23 < hour then throw .hour
  if 59 < minute then throw .minute
  if 59 < second then throw .second
  return ⟨date, hour, minute, second, microsecond, offset⟩

/-- Microseconds on a clock that shows universal time, for a timestamp that tells its offset. -/
def instant? (t : Timestamp) : Option Int :=
  t.offset.map fun minutes =>
    (((t.date.ordinal * 24 + t.hour) * 60 + t.minute - minutes) * 60 + t.second) * 1000000
      + t.microsecond

def offsetText (minutes : Int) : String :=
  (if minutes < 0 then "-" else "+") ++ padded 2 (minutes.natAbs / 60) ++ ":"
    ++ padded 2 (minutes.natAbs % 60)

/-- Date and time with a separator between them. -/
def text (separator : String) (t : Timestamp) : String :=
  t.date.text ++ separator ++ padded 2 t.hour ++ ":" ++ padded 2 t.minute ++ ":"
    ++ padded 2 t.second
    ++ (if t.microsecond = 0 then "" else "." ++ padded 6 t.microsecond)
    ++ (t.offset.map offsetText).getD ""

/-- A span of minutes as days, not negative seconds and nothing else. -/
def spanShown (minutes : Int) : String :=
  let days := minutes.fdiv 1440
  let seconds := minutes.fmod 1440 * 60
  let parts := (if days = 0 then [] else ["days=" ++ toString days])
    ++ (if seconds = 0 then [] else ["seconds=" ++ toString seconds])
  "datetime.timedelta(" ++ (if parts.isEmpty then "0" else String.intercalate ", " parts) ++ ")"

def zoneShown (minutes : Int) : String :=
  if minutes = 0 then "datetime.timezone.utc" else "datetime.timezone(" ++ spanShown minutes ++ ")"

/-- Seconds and microseconds are left out when nothing but zeros follows. -/
def shown (t : Timestamp) : String :=
  "datetime.datetime(" ++ t.date.parts ++ ", " ++ toString t.hour ++ ", " ++ toString t.minute
    ++ (if t.second = 0 ∧ t.microsecond = 0 then "" else ", " ++ toString t.second)
    ++ (if t.microsecond = 0 then "" else ", " ++ toString t.microsecond)
    ++ (t.offset.map fun m => ", tzinfo=" ++ zoneShown m).getD "" ++ ")"

end Timestamp

def CalendarFault.message : CalendarFault → String
  | .year n => "year " ++ toString n ++ " is out of range"
  | .month => "month must be in 1..12"
  | .day => "day is out of range for month"
  | .hour => "hour must be in 0..23"
  | .minute => "minute must be in 0..59"
  | .second => "second must be in 0..59"
  | .offset minutes =>
    "offset must be a timedelta strictly between -timedelta(hours=24) and timedelta(hours=24), not "
      ++ Timestamp.spanShown minutes ++ "."

end ActorSpec
