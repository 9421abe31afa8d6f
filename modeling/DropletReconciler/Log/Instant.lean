import DropletReconciler.Value

/-!
Times of log entries, given as seconds since the start of the year 1970. The calendar for the
console has the years 1 to 9999.
-/

namespace DropletReconciler.Log

/-- A value that stands for no time. -/
inductive InstantFault where
  | notNumber (kind : Value.Kind)
  | nan
  | range
  | fieldRange
  | year (n : Int)
  deriving DecidableEq, Repr

def InstantFault.message : InstantFault → String
  | .notNumber kind => "'" ++ kind.word ++ "' object cannot be interpreted as an integer"
  | .nan => "Invalid value NaN (not a number)"
  | .range => "timestamp out of range for platform time_t"
  | .fieldRange => "[Errno 75] Value too large for defined data type"
  | .year n => "year " ++ toString n ++ " is out of range"

namespace Instant

def secondsInDay : Int := 86400

/-- The seconds of an instant are at least its negative and below it. -/
def secondsLimit : Int := 9223372036854775808

/-- The years of an instant count from 1900 and are at least its negative and below it. -/
def yearsLimit : Int := 2147483648

def inRange (seconds : Int) : Except InstantFault Int :=
  if -secondsLimit ≤ seconds ∧ seconds < secondsLimit then .ok seconds else .error .range

/-- The whole seconds before or at an instant. -/
def seconds (v : Value) : Except InstantFault Int :=
  match v with
  | .float .nan => .error .nan
  | .float (.infinite _) => .error .range
  | .float (.finite negative mantissa exponent) =>
    let size := Binary64.magnitude mantissa exponent
    inRange ((if negative then -(size.num : Int) else size.num).fdiv size.den)
  | v => v.whole?.elim (.error (.notNumber v.kind)) inRange

/-- The year of an instant. Years are counted from the first of March, behind the leap day, in ages
of four hundred years, which all have the same days. -/
def year (seconds : Int) : Int :=
  let day := seconds.fdiv secondsInDay + 719468
  let age := day.fdiv 146097
  let dayOfAge := day - age * 146097
  let yearOfAge := (dayOfAge - dayOfAge / 1460 + dayOfAge / 36524 - dayOfAge / 146096) / 365
  let dayOfYear := dayOfAge - (365 * yearOfAge + yearOfAge / 4 - yearOfAge / 100)
  yearOfAge + age * 400 + if dayOfYear < 306 then 0 else 1

def checkYear (seconds : Int) : Except InstantFault Unit :=
  if 1 ≤ year seconds ∧ year seconds ≤ 9999 then .ok () else .error (.year (year seconds))

/-- An instant that can be told by year, month and day. -/
def told (v : Value) : Except InstantFault Int := do
  let n ← seconds v
  let years := year n - 1900
  if -yearsLimit ≤ years ∧ years < yearsLimit then pure n else throw .fieldRange

/-- An instant of the calendar, as well as the day before it. -/
def checkCalendar (v : Value) : Except InstantFault Unit := do
  let n ← told v
  checkYear n
  checkYear (n - secondsInDay)

end Instant

end DropletReconciler.Log
