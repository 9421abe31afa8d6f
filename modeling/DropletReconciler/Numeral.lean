import DropletReconciler.Text.DecimalDigit

/-!
Decimal numerals as lists of digit values, and the limit on their length.
-/

namespace DropletReconciler.Numeral

/-- More digits than a numeral may have; they are counted only when it is read. -/
structure TooLong where
  digits : Option Nat
  deriving DecidableEq, Repr

def maxDigits : Nat := 4300

def TooLong.count (fault : TooLong) : String :=
  match fault.digits with
  | some digits => ": value has " ++ toString digits ++ " digits"
  | none => ""

def TooLong.message (fault : TooLong) : String :=
  "Exceeds the limit (4300 digits) for integer string conversion" ++ fault.count ++
    "; use sys.set_int_max_str_digits() to increase the limit"

/-- The number that a list of digits denotes, the most significant first. -/
def value (digits : List Nat) : Nat :=
  digits.foldl (fun acc digit => 10 * acc + digit) 0

/-- The number of a numeral of at most `maxDigits` digits; leading zeros count. -/
def read (digits : List Nat) : Except TooLong Nat :=
  if maxDigits < digits.length then .error ⟨some digits.length⟩ else .ok (value digits)

/-- The numeral of a number, which may have `maxDigits` digits as well. -/
def write (n : Int) : Except TooLong String :=
  if Nat.pow 10 maxDigits ≤ n.natAbs then .error ⟨none⟩ else .ok (toString n)

def asciiDigit (c : Char) : Nat := c.toNat - '0'.toNat

/-- Reads characters that are ASCII digits. -/
def readAscii (cs : List Char) : Except TooLong Nat := read (cs.map asciiDigit)

/-- The digits of a text that holds decimal digits only, of any script. -/
def digits? (cs : List Char) : Option (List Nat) := cs.mapM Text.digitValue?

end DropletReconciler.Numeral
