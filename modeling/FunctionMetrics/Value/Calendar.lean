/-! # Dates and moments

Days of the years 1 to 9999 in the Gregorian calendar, and times of day with or without an offset. -/

namespace FunctionMetrics

def padded (width n : Nat) : String :=
  let ds := toString n
  String.ofList (List.replicate (width - ds.length) '0') ++ ds

def isLeapYear (y : Nat) : Bool := y % 4 = 0 ∧ (y % 100 ≠ 0 ∨ y % 400 = 0)

def daysInMonth (y m : Nat) : Nat :=
  if m = 2 then (if isLeapYear y then 29 else 28)
  else if m = 4 ∨ m = 6 ∨ m = 9 ∨ m = 11 then 30
  else 31

structure Date where
  year : Nat
  month : Nat
  day : Nat
deriving DecidableEq, Repr, Inhabited

namespace Date

inductive Problem
  | year (y : Nat)
  | month
  | day
deriving DecidableEq, Repr

def Problem.message : Problem → String
  | .year y => "year " ++ toString y ++ " is out of range"
  | .month => "month must be in 1..12"
  | .day => "day is out of range for month"

def of (y m d : Nat) : Except Problem Date :=
  if y = 0 ∨ 9999 < y then .error (.year y)
  else if m = 0 ∨ 12 < m then .error .month
  else if d = 0 ∨ daysInMonth y m < d then .error .day
  else .ok ⟨y, m, d⟩

def daysInMonths (y : Nat) : Nat → Nat
  | 0 => 0
  | m + 1 => daysInMonths y m + daysInMonth y (m + 1)

/-- Days since the last day of the year 0. -/
def number (d : Date) : Nat :=
  let before := d.year - 1
  before * 365 + before / 4 - before / 100 + before / 400 + daysInMonths d.year (d.month - 1) + d.day

def text (d : Date) : String := padded 4 d.year ++ "-" ++ padded 2 d.month ++ "-" ++ padded 2 d.day

end Date

/-- A time of a day; the offset from universal time is in minutes. -/
structure Moment where
  date : Date
  hour : Nat
  minute : Nat
  second : Nat
  microsecond : Nat
  offset : Option Int
deriving DecidableEq, Repr, Inhabited

namespace Moment

inductive Problem
  | date (problem : Date.Problem)
  | hour
  | minute
  | second
  | offset (days seconds : Int)
deriving DecidableEq, Repr

/-- A length of time in whole days and the seconds of the last day. -/
def lengthLiteral (days seconds : Int) : String :=
  let parts := (if days = 0 then [] else ["days=" ++ toString days]) ++
    (if seconds = 0 then [] else ["seconds=" ++ toString seconds])
  "datetime.timedelta(" ++ (if parts = [] then "0" else ", ".intercalate parts) ++ ")"

def Problem.message : Problem → String
  | .date p => p.message
  | .hour => "hour must be in 0..23"
  | .minute => "minute must be in 0..59"
  | .second => "second must be in 0..59"
  | .offset days seconds =>
    "offset must be a timedelta strictly between -timedelta(hours=24) and timedelta(hours=24), not " ++
      lengthLiteral days seconds ++ "."

def checkOffset (minutes : Int) : Except Problem Int :=
  if minutes.natAbs < 24 * 60 then .ok minutes
  else .error (.offset (minutes.fdiv (24 * 60)) (minutes.fmod (24 * 60) * 60))

def of (y m d hour minute second microsecond : Nat) (offset : Option Int) : Except Problem Moment := do
  let date ← (Date.of y m d).mapError .date
  if 23 < hour then .error .hour
  else if 59 < minute then .error .minute
  else if 59 < second then .error .second
  else .ok ⟨date, hour, minute, second, microsecond, offset⟩

/-- Microseconds since the end of the year 0 on the clock of the place, and in universal time if known. -/
def instant (m : Moment) : Int :=
  let seconds : Int := ((m.date.number * 24 + m.hour) * 60 + m.minute) * 60 + m.second
  (seconds - m.offset.getD 0 * 60) * 1000000 + m.microsecond

/-- The same instant; a moment without an offset never equals one with an offset. -/
def same (a b : Moment) : Bool := a.offset.isSome = b.offset.isSome ∧ a.instant = b.instant

def offsetLiteral (minutes : Int) : String :=
  if minutes = 0 then "datetime.timezone.utc"
  else "datetime.timezone(" ++ lengthLiteral (minutes.fdiv (24 * 60)) (minutes.fmod (24 * 60) * 60) ++ ")"

def literal (m : Moment) : String :=
  let time := [m.date.year, m.date.month, m.date.day, m.hour, m.minute] ++
    (if m.microsecond ≠ 0 then [m.second, m.microsecond] else if m.second ≠ 0 then [m.second] else [])
  let zone := match m.offset with
    | none => ""
    | some minutes => ", tzinfo=" ++ offsetLiteral minutes
  "datetime.datetime(" ++ ", ".intercalate (time.map toString) ++ zone ++ ")"

def text (m : Moment) : String :=
  let part := if m.microsecond = 0 then "" else "." ++ padded 6 m.microsecond
  let zone := match m.offset with
    | none => ""
    | some minutes => (if minutes < 0 then "-" else "+") ++ padded 2 (minutes.natAbs / 60) ++ ":" ++
        padded 2 (minutes.natAbs % 60)
  m.date.text ++ " " ++ padded 2 m.hour ++ ":" ++ padded 2 m.minute ++ ":" ++ padded 2 m.second ++ part ++ zone

end Moment

def Date.literal (d : Date) : String :=
  "datetime.date(" ++ ", ".intercalate ([d.year, d.month, d.day].map toString) ++ ")"

end FunctionMetrics
