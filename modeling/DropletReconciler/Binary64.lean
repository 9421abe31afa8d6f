/-!
Numbers of the double-precision binary format, with exact conversions to and from fractions.
-/

namespace DropletReconciler

/-- A finite number is `mantissa * 2 ^ exponent`, its mantissa below `2 ^ 53`. -/
inductive Binary64 where
  | finite (negative : Bool) (mantissa : Nat) (exponent : Int)
  | infinite (negative : Bool)
  | nan
  deriving DecidableEq, Repr

/-- The fraction `num / den` rounded to a whole number, a half to the even neighbour. -/
def roundHalfEven (num den : Nat) : Nat :=
  let quotient := num / den
  let twice := 2 * (num % den)
  if den < twice ∨ (twice = den ∧ quotient % 2 = 1) then quotient + 1 else quotient

/-- A fraction of natural numbers; the denominator is positive in all uses. -/
structure Fraction where
  num : Nat
  den : Nat

def Fraction.scale (base : Nat) (power : Int) (x : Fraction) : Fraction :=
  if 0 ≤ power then ⟨x.num * base.pow power.toNat, x.den⟩
  else ⟨x.num, x.den * base.pow (-power).toNat⟩

/-- The fraction without what is behind the point. -/
def Fraction.whole (x : Fraction) : Nat := x.num / x.den

/-- `x ≤ y` for positive denominators. -/
def Fraction.le (x y : Fraction) : Bool := x.num * y.den ≤ y.num * x.den

def Fraction.lt (x y : Fraction) : Bool := x.num * y.den < y.num * x.den

namespace Binary64

def mantissaBits : Nat := 53

/-- The least mantissa that uses all its bits. -/
def leastFull : Nat := Nat.pow 2 52

/-- Mantissas are below this limit. -/
def mantissaLimit : Nat := Nat.pow 2 53

def leastExponent : Int := -1074

def greatestExponent : Int := 971

def zero (negative : Bool) : Binary64 := .finite negative 0 leastExponent

/-- A rounded mantissa that reached the limit moves to the next exponent. -/
def assemble (negative : Bool) (mantissa : Nat) (exponent : Int) : Binary64 :=
  let (mantissa, exponent) :=
    if mantissa = mantissaLimit then (leastFull, exponent + 1)
    else (mantissa, exponent)
  if greatestExponent < exponent then .infinite negative else .finite negative mantissa exponent

/-- The number nearest to a fraction, of two the one with an even mantissa. -/
def ofFraction (negative : Bool) (x : Fraction) : Binary64 :=
  if x.num = 0 then zero negative
  else
    let low : Int := (x.num.log2 : Int) - x.den.log2 - mantissaBits
    let scaled := x.scale 2 (-low)
    let fitted := if scaled.num / scaled.den < mantissaLimit then low else low + 1
    let exponent := max leastExponent fitted
    let unit := x.scale 2 (-exponent)
    assemble negative (roundHalfEven unit.num unit.den) exponent

def decimalLength (n : Nat) : Nat := (Nat.toDigits 10 n).length

/-- The number nearest to `digits * 10 ^ exponent`. -/
def ofDecimal (negative : Bool) (digits : Nat) (exponent : Int) : Binary64 :=
  let magnitude := exponent + decimalLength digits
  if digits = 0 ∨ magnitude < -400 then zero negative
  else if 400 < magnitude then .infinite negative
  else ofFraction negative (Fraction.scale 10 exponent ⟨digits, 1⟩)

/-- The number nearest to an integer, when it is in range. -/
def ofInt? (n : Int) : Option Binary64 :=
  match ofFraction (n < 0) ⟨n.natAbs, 1⟩ with
  | .infinite _ => none
  | x => some x

/-- The absolute value of a finite number. -/
def magnitude (mantissa : Nat) (exponent : Int) : Fraction :=
  Fraction.scale 2 exponent ⟨mantissa, 1⟩

def isZero : Binary64 → Bool
  | .finite _ mantissa _ => mantissa == 0
  | _ => false

/-- Equality with an integer, exact. -/
def equalsInt (x : Binary64) (n : Int) : Bool :=
  match x with
  | .finite negative mantissa exponent =>
    let value := magnitude mantissa exponent
    let sign : Int := if negative then -1 else 1
    sign * value.num == n * value.den
  | _ => false

/-- The order with an integer on the right, exact; a NaN is in no order. -/
def leInt (x : Binary64) (n : Int) : Bool :=
  match x with
  | .finite negative mantissa exponent =>
    let value := magnitude mantissa exponent
    let sign : Int := if negative then -1 else 1
    sign * value.num ≤ n * value.den
  | .infinite negative => negative
  | .nan => false

def geInt (x : Binary64) (n : Int) : Bool :=
  match x with
  | .nan => false
  | x => !(x.leInt n) || x.equalsInt n

/-- The product with a hundred, rounded. -/
def timesHundred : Binary64 → Binary64
  | .finite negative mantissa exponent =>
    let value := magnitude mantissa exponent
    ofFraction negative ⟨100 * value.num, value.den⟩
  | x => x

end Binary64

end DropletReconciler
