import DropletReconciler.Moment
import DropletReconciler.Numeral
import DropletReconciler.Toml.Quoted

/-!
Dates and times of a TOML document.
-/

namespace DropletReconciler.Toml

/-- Exactly `count` digits whose value lies between two bounds. -/
def readField (count low high : Nat) (cs : List Char) : Reading Nat :=
  let digits := cs.take count
  if digits.length = count ∧ digits.all Char.isDigit then
    let n := Numeral.value (digits.map Numeral.asciiDigit)
    if low ≤ n ∧ n ≤ high then some (n, cs.drop count) else none
  else none

def readMark (mark : Char) : List Char → Reading Unit
  | c :: rest => if c = mark then some ((), rest) else none
  | [] => none

/-- Six places of a fraction of a second; further digits do not count. -/
def microseconds (digits : List Char) : Nat :=
  let kept := digits.take 6
  Numeral.value ((kept ++ List.replicate (6 - kept.length) '0').map Numeral.asciiDigit)

/-- A fraction of a second, when there is one. -/
def readMicroseconds (cs : List Char) : Nat × List Char :=
  match cs with
  | '.' :: rest =>
    let digits := rest.takeWhile Char.isDigit
    if digits.isEmpty then (0, cs) else (microseconds digits, rest.dropWhile Char.isDigit)
  | _ => (0, cs)

def readTime (cs : List Char) : Option (TimeOfDay × List Char) := do
  let (hour, cs) ← readField 2 0 23 cs
  let (_, cs) ← readMark ':' cs
  let (minute, cs) ← readField 2 0 59 cs
  let (_, cs) ← readMark ':' cs
  let (second, cs) ← readField 2 0 59 cs
  let (microsecond, cs) := readMicroseconds cs
  pure (⟨hour, minute, second, microsecond⟩, cs)

/-- The day is not checked against the month here. -/
def readDate (cs : List Char) : Option (Date × List Char) := do
  let (year, cs) ← readField 4 0 9999 cs
  let (_, cs) ← readMark '-' cs
  let (month, cs) ← readField 2 1 12 cs
  let (_, cs) ← readMark '-' cs
  let (day, cs) ← readField 2 1 31 cs
  pure (⟨year, month, day⟩, cs)

def readDistance (negative : Bool) (cs : List Char) : Option (Offset × List Char) := do
  let (hours, cs) ← readField 2 0 23 cs
  let (_, cs) ← readMark ':' cs
  let (minutes, cs) ← readField 2 0 59 cs
  pure (⟨negative, 60 * hours + minutes⟩, cs)

def readOffset (cs : List Char) : Reading Offset :=
  match cs with
  | 'Z' :: rest => some (⟨false, 0⟩, rest)
  | 'z' :: rest => some (⟨false, 0⟩, rest)
  | '+' :: rest => readDistance false rest
  | '-' :: rest => readDistance true rest
  | _ => none

/-- The time behind a date, divided from it by a letter or a space. -/
def readTimeAfterDate : List Char → Reading TimeOfDay
  | c :: rest => if c = 'T' ∨ c = 't' ∨ c = ' ' then readTime rest else none
  | [] => none

/-- Reads a date, with or without a time and an offset, or a time alone. -/
def readMoment (cs : List Char) : Reading Moment :=
  match readDate cs with
  | some (date, afterDate) =>
    match readTimeAfterDate afterDate with
    | some (time, afterTime) =>
      match readOffset afterTime with
      | some (offset, rest) => some (.dateTime date time (some offset), rest)
      | none => some (.dateTime date time none, afterTime)
    | none => some (.date date, afterDate)
  | none => (readTime cs).map fun (time, rest) => (.time time, rest)

/-- The date of a moment is one of the calendar. -/
def onCalendar : Moment → Bool
  | .date date => date.valid
  | .time _ => true
  | .dateTime date _ _ => date.valid

end DropletReconciler.Toml
