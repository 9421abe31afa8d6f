import DropletReconciler.Binary64.Digits

/-!
The usual written form of a binary number: the fewest digits that read back to it, positional from
a ten-thousandth up to sixteen digits before the point, and with an exponent beyond.
-/

namespace DropletReconciler.Binary64

def decimalChars (n : Nat) : List Char := Nat.toDigits 10 n

/-- An exponent with its sign and at least two digits. -/
def exponentChars (exponent : Int) : List Char :=
  let digits := decimalChars exponent.natAbs
  (if exponent < 0 then '-' else '+') :: (if digits.length < 2 then '0' :: digits else digits)

/-- Digits with a point after the first `point` of them; zeros fill both sides. -/
def positional (digits : List Char) (point : Int) : List Char × List Char :=
  if point ≤ 0 then (['0'], List.replicate (-point).toNat '0' ++ digits)
  else
    let whole := point.toNat
    (digits.take whole ++ List.replicate (whole - digits.length) '0', digits.drop whole)

/-- The digits of a finite number and the place of its point, counted from their left. -/
def shortestChars (mantissa : Nat) (exponent : Int) : List Char × Int :=
  let d := shortest mantissa exponent
  let digits := decimalChars d.digits
  (digits, d.place + digits.length)

def writtenChars : Binary64 → List Char
  | .nan => ['n', 'a', 'n']
  | .infinite negative => (if negative then ['-'] else []) ++ ['i', 'n', 'f']
  | .finite negative mantissa exponent =>
    let (digits, point) := shortestChars mantissa exponent
    let body :=
      if -4 < point ∧ point ≤ 16 then
        let (whole, part) := positional digits point
        whole ++ '.' :: (if part.isEmpty then ['0'] else part)
      else
        digits.take 1 ++ (if digits.length ≤ 1 then [] else '.' :: digits.drop 1) ++
          'e' :: exponentChars (point - 1)
    (if negative then ['-'] else []) ++ body

def written (x : Binary64) : String := String.ofList x.writtenChars

end DropletReconciler.Binary64
