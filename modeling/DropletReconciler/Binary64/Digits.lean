import DropletReconciler.Binary64

/-!
Decimal digits of a binary number: the fewest that read back to it, and those up to a given place.
-/

namespace DropletReconciler.Binary64

/-- The number `digits * 10 ^ place`. -/
structure Decimal where
  digits : Nat
  place : Int
  deriving DecidableEq, Repr

def Decimal.fraction (d : Decimal) : Fraction := Fraction.scale 10 d.place ⟨d.digits, 1⟩

/-- The place of the leading digit of a positive fraction, by a guess from the binary logarithm. -/
def leadingPlace (x : Fraction) : Int :=
  let guess := (((x.num.log2 : Int) - x.den.log2) * 30103).fdiv 100000
  let candidates : List Int := [guess + 2, guess + 1, guess, guess - 1]
  (candidates.find? fun place => Fraction.le (Fraction.scale 10 place ⟨1, 1⟩) x).getD (guess - 2)

/-- The fractions that round to a number: from `low` to `high`, the ends included or not. -/
structure Interval where
  low : Fraction
  high : Fraction
  closed : Bool

def Interval.contains (i : Interval) (x : Fraction) : Bool :=
  if i.closed then i.low.le x && x.le i.high else i.low.lt x && x.lt i.high

/-- Below a power of two the neighbouring number is only half as far. -/
def roundingInterval (mantissa : Nat) (exponent : Int) : Interval :=
  let low :=
    if mantissa = leastFull ∧ leastExponent < exponent then
      magnitude (4 * mantissa - 1) (exponent - 2)
    else magnitude (2 * mantissa - 1) (exponent - 1)
  { low := low
    high := magnitude (2 * mantissa + 1) (exponent - 1)
    closed := mantissa % 2 == 0 }

/-- The distance of a grid point from a fraction, over their common denominator. -/
def Decimal.distance (d : Decimal) (x : Fraction) : Nat :=
  let y := d.fraction
  ((y.num * x.den : Int) - x.num * y.den).natAbs

/-- The neighbour of `x` on the grid of a place that lies in the interval, of two the nearer one,
and the even one when both are equally near. -/
def hit? (x : Fraction) (i : Interval) (place : Int) : Option Decimal :=
  let scaled := x.scale 10 (-place)
  let below : Decimal := ⟨scaled.num / scaled.den, place⟩
  let above : Decimal := ⟨below.digits + 1, place⟩
  match i.contains below.fraction, i.contains above.fraction with
  | true, true =>
    if below.distance x < above.distance x then some below
    else if above.distance x < below.distance x then some above
    else if below.digits % 2 = 0 then some below else some above
  | true, false => some below
  | false, true => some above
  | false, false => none

/-- The fewest digits that read back to a finite number, and of these the nearest. The grid above
the leading place comes first: the next power of ten may be near enough. -/
def shortest (mantissa : Nat) (exponent : Int) : Decimal :=
  if mantissa = 0 then ⟨0, 0⟩
  else
    let x := magnitude mantissa exponent
    let highest := leadingPlace x + 1
    let interval := roundingInterval mantissa exponent
    ((List.range 18).findSome? fun (extra : Nat) => hit? x interval (highest - extra)).getD ⟨0, 0⟩

/-- The number of units of a place nearest to a fraction. -/
def unitsAt (x : Fraction) (place : Int) : Nat :=
  let scaled := x.scale 10 (-place)
  roundHalfEven scaled.num scaled.den

/-- The fraction rounded to `count + 1` significant digits. -/
def significant (x : Fraction) (count : Nat) : Decimal :=
  if x.num = 0 then ⟨0, -count⟩
  else
    let place := leadingPlace x - count
    let units := unitsAt x place
    if units = Nat.pow 10 (count + 1) then ⟨Nat.pow 10 count, place + 1⟩ else ⟨units, place⟩

end DropletReconciler.Binary64
