import DropletReconciler.Numeral
import DropletReconciler.Toml.Quoted
import DropletReconciler.Value

/-!
Numbers of a TOML document. An underscore may stand between two digits.
-/

namespace DropletReconciler.Toml

/-- A document that cannot be read. -/
inductive Fault where
  | malformed
  | notText
  | tooLong (fault : Numeral.TooLong)
  | tooDeep
  deriving DecidableEq, Repr

/-- The digits that follow a first one, and what comes after them. -/
def moreDigits (isDigit : Char → Bool) : List Char → List Char × List Char
  | '_' :: c :: rest =>
    if isDigit c then
      let (digits, after) := moreDigits isDigit rest
      (c :: digits, after)
    else ([], '_' :: c :: rest)
  | c :: rest =>
    if isDigit c then
      let (digits, after) := moreDigits isDigit rest
      (c :: digits, after)
    else ([], c :: rest)
  | [] => ([], [])

/-- Digits, of which there is at least one. -/
def readDigits (isDigit : Char → Bool) : List Char → Reading (List Char)
  | c :: rest =>
    if isDigit c then
      let (digits, after) := moreDigits isDigit rest
      some (c :: digits, after)
    else none
  | [] => none

/-- The number of digits in a base, the most significant first. -/
def inBase (base : Nat) (digits : List Char) : Nat :=
  digits.foldl (fun acc c => base * acc + (hexValue? c).getD 0) 0

def digitOfBase (base : Nat) (c : Char) : Bool := ((hexValue? c).getD base) < base

/-- A whole number behind the mark of its base. -/
def readMarked (cs : List Char) : Reading Nat :=
  match cs with
  | '0' :: 'x' :: rest => go 16 rest
  | '0' :: 'o' :: rest => go 8 rest
  | '0' :: 'b' :: rest => go 2 rest
  | _ => none
where
  go (base : Nat) (cs : List Char) : Reading Nat :=
    (readDigits (digitOfBase base) cs).map fun (digits, after) => (inBase base digits, after)

def readSign : List Char → Option Bool × List Char
  | '+' :: rest => (some false, rest)
  | '-' :: rest => (some true, rest)
  | cs => (none, cs)

/-- The whole part of a decimal number, which has no zero in front. -/
def readWhole : List Char → Reading (List Char)
  | '0' :: rest => some (['0'], rest)
  | cs => readDigits Char.isDigit cs

def readFraction : List Char → Reading (List Char)
  | '.' :: rest => readDigits Char.isDigit rest
  | _ => none

/-- The sign and digits of an exponent. -/
def readExponent : List Char → Reading (Bool × List Char)
  | c :: rest =>
    if c = 'e' ∨ c = 'E' then
      let (sign, rest) := readSign rest
      (readDigits Char.isDigit rest).map fun (digits, after) => ((sign.getD false, digits), after)
    else none
  | [] => none

def signed (negative : Bool) (n : Nat) : Int := if negative then -n else n

/-- A decimal number: a float when it has a fraction or an exponent, else a whole number. -/
def readDecimal (cs : List Char) : Option (Except Fault (Value × List Char)) := do
  let (sign, cs) := readSign cs
  let negative := sign.getD false
  let (whole, cs) ← readWhole cs
  let (fraction, cs) := ((readFraction cs).map fun (digits, after) => (some digits, after)).getD
    (none, cs)
  let (exponent, cs) := ((readExponent cs).map fun (parts, after) => (some parts, after)).getD
    (none, cs)
  if fraction.isNone ∧ exponent.isNone then
    match Numeral.readAscii whole with
    | .ok n => some (.ok (.int (signed negative n), cs))
    | .error fault => some (.error (.tooLong fault))
  else
    let places := fraction.getD []
    let power := (exponent.map fun (negative, digits) => signed negative (inBase 10 digits)).getD 0
    some (.ok (.float (Binary64.ofDecimal negative (inBase 10 (whole ++ places))
      (power - places.length)), cs))

/-- An infinity or a number that is none. -/
def readSpecial (cs : List Char) : Reading Value :=
  let (sign, cs) := readSign cs
  match cs with
  | 'i' :: 'n' :: 'f' :: rest => some (.float (.infinite (sign.getD false)), rest)
  | 'n' :: 'a' :: 'n' :: rest => some (.float .nan, rest)
  | _ => none

/-- Reads a number; `none` when none stands here. -/
def readNumber (cs : List Char) : Option (Except Fault (Value × List Char)) :=
  match readMarked cs with
  | some (n, rest) => some (.ok (.int n, rest))
  | none =>
    match readDecimal cs with
    | some result => some result
    | none => (readSpecial cs).map .ok

end DropletReconciler.Toml
