import DropletReconciler.Template.Layout.Number

/-!
Floats in a layout: with a set number of places, with a set number of digits, or with the fewest
digits that read back.
-/

namespace DropletReconciler.Template

open Binary64

def upperChars (cs : List Char) : List Char := cs.map Char.toUpper

/-- Digits with an exponent: one before the point and `places` after it. -/
def scientificParts (alternate : Bool) (digits : List Char) (exponent : Int) :
    List Char × List Char :=
  let part := digits.drop 1
  (digits.take 1,
    (if part.isEmpty then (if alternate then ['.'] else []) else '.' :: part) ++
      'e' :: exponentChars exponent)

/-- Digits around a point, with a zero after it where `wholeZero` asks for one. -/
def positionalParts (alternate wholeZero : Bool) (digits : List Char) (point : Int) :
    List Char × List Char :=
  let (whole, part) := positional digits point
  (whole,
    if !part.isEmpty then '.' :: part
    else if wholeZero then ['.', '0']
    else if alternate then ['.']
    else [])

def dropTrailingZeros (digits : List Char) : List Char :=
  match (digits.reverse.dropWhile (· = '0')).reverse with
  | [] => ['0']
  | kept => kept

/-- The digits of a rounded fraction, zeros in front of a value below its first place included. -/
def paddedDigits (count n : Nat) : List Char :=
  let digits := decimalChars n
  List.replicate (count - digits.length) '0' ++ digits

/-- Beyond this count of places every number has zeros only. -/
def longestFraction : Nat := 1074

/-- Beyond this count of digits every number has zeros only. -/
def longestExpansion : Nat := 800

def zeros (count : Nat) : List Char := List.replicate count '0'

/-- `f`: a set number of places after the point. -/
def fixedParts (alternate : Bool) (x : Fraction) (places : Nat) : List Char × List Char :=
  let kept := min places longestFraction
  let digits := paddedDigits (kept + 1) (unitsAt x (-kept)) ++ zeros (places - kept)
  positionalParts alternate false digits (digits.length - places)

/-- `e`: a set number of places after the first digit. -/
def exponentParts (alternate : Bool) (x : Fraction) (places : Nat) : List Char × List Char :=
  let kept := min places longestExpansion
  let d := significant x kept
  let exponent := if d.digits = 0 then 0 else d.place + kept
  scientificParts alternate (paddedDigits (kept + 1) d.digits ++ zeros (places - kept)) exponent

/-- `g`: a set number of digits, positional unless the exponent is below -4 or reaches `limit`. -/
def generalParts (alternate wholeZero : Bool) (x : Fraction) (precision : Nat) :
    List Char × List Char :=
  let count := max precision 1
  let kept := min count longestExpansion
  let d := significant x (kept - 1)
  let exponent : Int := if d.digits = 0 then 0 else d.place + (kept - 1 : Nat)
  let limit : Int := if wholeZero then (count : Int) - 1 else count
  let digits := paddedDigits kept d.digits
  let digits :=
    if alternate then digits ++ zeros (count - kept) else dropTrailingZeros digits
  if exponent < -4 ∨ limit ≤ exponent then scientificParts alternate digits exponent
  else positionalParts alternate wholeZero digits (exponent + 1)

/-- The fewest digits that read back. -/
def shortestParts (alternate : Bool) (mantissa : Nat) (exponent : Int) : List Char × List Char :=
  let (digits, point) := shortestChars mantissa exponent
  if -4 < point ∧ point ≤ 16 then positionalParts alternate true digits point
  else scientificParts alternate digits (point - 1)

def maxPrecision : Nat := 2147483647

/-- The places of an exponent form. The greatest precision leaves the first digit alone, because
there is no count of one digit more. -/
def exponentPlaces (precision : Option Nat) : Nat :=
  if precision = some maxPrecision then 0 else precision.getD 6

/-- More places than a text can have. Without the alternate form a count of digits is no such
demand, because zeros at the end are left out. -/
def asksTooMuch (presentation : Option Char) (alternate : Bool) (precision : Option Nat) : Bool :=
  match presentation with
  | some 'f' => maxLength < precision.getD 6
  | some 'e' => maxLength < exponentPlaces precision
  | _ => alternate && maxLength < precision.getD 0

/-- The parts of a finite number in a presentation; none stands for the usual one. -/
def floatParts (presentation : Option Char) (alternate : Bool) (precision : Option Nat)
    (mantissa : Nat) (exponent : Int) : List Char × List Char :=
  let x := Binary64.magnitude mantissa exponent
  match presentation with
  | some 'f' => fixedParts alternate x (precision.getD 6)
  | some 'e' => exponentParts alternate x (exponentPlaces precision)
  | some _ => generalParts alternate false x (precision.getD 6)
  | none =>
    match precision with
    | none => shortestParts alternate mantissa exponent
    | some count => generalParts alternate true x count

def showsZero (parts : List Char × List Char) : Bool :=
  parts.1.all (· = '0') && (parts.2.takeWhile (· ≠ 'e')).all fun c => c = '0' || c = '.'

/-- The presentation in small letters, as one of those that show no percent sign. -/
def basicCode (code : Char) : Char :=
  if code = '%' then 'f' else if code = 'n' then 'g' else code.toLower

def Layout.ofFloat (layout : Layout) (x : Binary64) : Except LayoutFault (List Char) :=
  let code := layout.presentation.getD 'r'
  let percent := code == '%'
  let upper := code == 'E' || code == 'F' || code == 'G'
  let basic := layout.presentation.map basicCode
  let finish (negative : Bool) (parts : List Char × List Char) : List Char :=
    let parts := if upper then (upperChars parts.1, upperChars parts.2) else parts
    layout.number 3 ⟨negative, [], parts.1, parts.2 ++ if percent then ['%'] else []⟩
  if maxPrecision < layout.precision.getD 0 then .error .precisionRange
  else
    match if percent then x.timesHundred else x with
    | .nan => layout.checked fun () => finish false ([], ['n', 'a', 'n'])
    | .infinite negative => layout.checked fun () => finish negative ([], ['i', 'n', 'f'])
    | .finite negative mantissa exponent =>
      if asksTooMuch basic layout.alternate layout.precision then .error .tooLarge
      else
        layout.checked fun () =>
          let parts := floatParts basic layout.alternate layout.precision mantissa exponent
          finish (negative && !(layout.positiveZero && showsZero parts)) parts

end DropletReconciler.Template
