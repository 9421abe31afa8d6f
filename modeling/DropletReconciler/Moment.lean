/-!
Calendar dates and times of day, with and without an offset. On their own they are written in the
order of the calendar; inside other data they are shown as calls with their parts.
-/

namespace DropletReconciler

structure Date where
  year : Nat
  month : Nat
  day : Nat
  deriving DecidableEq, Repr

def Date.isLeap (year : Nat) : Bool := year % 4 == 0 && (year % 100 != 0 || year % 400 == 0)

def Date.daysIn (year month : Nat) : Nat :=
  if month = 2 then (if isLeap year then 29 else 28)
  else if month = 4 ∨ month = 6 ∨ month = 9 ∨ month = 11 then 30
  else 31

/-- The calendar starts with the year 1. -/
def Date.valid (d : Date) : Bool :=
  1 ≤ d.year && d.year ≤ 9999 && 1 ≤ d.month && d.month ≤ 12 && 1 ≤ d.day &&
    d.day ≤ Date.daysIn d.year d.month

structure TimeOfDay where
  hour : Nat
  minute : Nat
  second : Nat
  microsecond : Nat
  deriving DecidableEq, Repr

/-- A distance from universal time. -/
structure Offset where
  negative : Bool
  minutes : Nat
  deriving DecidableEq, Repr

inductive Moment where
  | date (d : Date)
  | time (t : TimeOfDay)
  | dateTime (d : Date) (t : TimeOfDay) (offset : Option Offset)
  deriving DecidableEq, Repr

/-- A number with zeros on its left up to a width. -/
def padded (width n : Nat) : String :=
  let digits := Nat.toDigits 10 n
  String.ofList (List.replicate (width - digits.length) '0' ++ digits)

def Date.written (d : Date) : String :=
  padded 4 d.year ++ "-" ++ padded 2 d.month ++ "-" ++ padded 2 d.day

/-- The fraction is left out when it is zero. -/
def TimeOfDay.written (t : TimeOfDay) : String :=
  padded 2 t.hour ++ ":" ++ padded 2 t.minute ++ ":" ++ padded 2 t.second ++
    if t.microsecond = 0 then "" else "." ++ padded 6 t.microsecond

def Offset.written (o : Offset) : String :=
  (if o.negative && o.minutes != 0 then "-" else "+") ++ padded 2 (o.minutes / 60) ++ ":" ++
    padded 2 (o.minutes % 60)

/-- A date and its time stand on both sides of `separator`. -/
def Moment.writtenWith (separator : String) : Moment → String
  | .date d => d.written
  | .time t => t.written
  | .dateTime d t offset =>
    d.written ++ separator ++ t.written ++ (offset.map Offset.written).getD ""

/-- A name with arguments in brackets. -/
def callOf (name : String) (arguments : List String) : String :=
  name ++ "(" ++ String.intercalate ", " arguments ++ ")"

def Date.parts (d : Date) : List Nat := [d.year, d.month, d.day]

/-- The parts at the end that are zero are left out, but never the minute. -/
def TimeOfDay.parts (t : TimeOfDay) : List Nat :=
  if t.microsecond ≠ 0 then [t.hour, t.minute, t.second, t.microsecond]
  else if t.second ≠ 0 then [t.hour, t.minute, t.second]
  else [t.hour, t.minute]

/-- The days and seconds of a distance. Only the days can be negative, so a negative distance is a
day back and some seconds on. -/
def Offset.spans (o : Offset) : List String :=
  if o.negative then ["days=-1", "seconds=" ++ toString (86400 - 60 * o.minutes)]
  else ["seconds=" ++ toString (60 * o.minutes)]

def Offset.shown (o : Offset) : String :=
  if o.minutes = 0 then "datetime.timezone.utc"
  else callOf "datetime.timezone" [callOf "datetime.timedelta" o.spans]

/-- A moment as it stands inside a list or a table. -/
def Moment.shown : Moment → String
  | .date d => callOf "datetime.date" (d.parts.map toString)
  | .time t => callOf "datetime.time" (t.parts.map toString)
  | .dateTime d t offset =>
    callOf "datetime.datetime"
      ((d.parts ++ t.parts).map toString ++
        (offset.map fun o => "tzinfo=" ++ o.shown).toList)

end DropletReconciler
