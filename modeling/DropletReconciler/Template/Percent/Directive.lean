import DropletReconciler.Template.Layout.Whole
import DropletReconciler.Value.Text

/-!
Directives of percent templates: flags, a width and a precision, and a code that says how a value is
laid out. Texts are cut to the precision; a whole number has at least that many digits, a float that
many places.
-/

namespace DropletReconciler.Template.Percent

inductive DirectiveFault where
  | notReal (code : Char) (kind : Value.Kind)
  | notWhole (code : Char) (kind : Value.Kind)
  | notFloat (kind : Value.Kind)
  | notChar
  | charRange
  | floatRange
  | wholeOfInfinite
  | wholeOfNan
  | precisionRange
  | tooLarge
  | unknownCode (code : Char) (index : Nat)
  | tooLong (fault : Numeral.TooLong)
  deriving DecidableEq, Repr

/-- A code in a message: itself when it can be seen, or a question mark. -/
def codeWord (code : Char) : String :=
  if 31 ≤ code.toNat ∧ code.toNat ≤ 126 then code.toString else "?"

def DirectiveFault.message : DirectiveFault → String
  | .notReal code kind =>
    "%" ++ code.toString ++ " format: a real number is required, not " ++ kind.word
  | .notWhole code kind =>
    "%" ++ code.toString ++ " format: an integer is required, not " ++ kind.word
  | .notFloat kind => "must be real number, not " ++ kind.word
  | .notChar => "%c requires int or char"
  | .charRange => "%c arg not in range(0x110000)"
  | .floatRange => "int too large to convert to float"
  | .wholeOfInfinite => "cannot convert float infinity to integer"
  | .wholeOfNan => "cannot convert float NaN to integer"
  | .precisionRange => "precision too large"
  | .tooLarge => ""
  | .unknownCode code index =>
    "unsupported format character '" ++ codeWord code ++ "' (0x" ++
      String.ofList (Nat.toDigits 16 code.toNat) ++ ") at index " ++ toString index
  | .tooLong fault => fault.message

structure Directive where
  left : Bool
  plus : Bool
  blank : Bool
  alternate : Bool
  zeros : Bool
  width : Nat
  precision : Option Nat
  deriving DecidableEq, Repr

namespace Directive

def plain : Directive where
  left := false
  plus := false
  blank := false
  alternate := false
  zeros := false
  width := 0
  precision := none

def withFlag? (d : Directive) : Char → Option Directive
  | '-' => some { d with left := true }
  | '+' => some { d with plus := true }
  | ' ' => some { d with blank := true }
  | '#' => some { d with alternate := true }
  | '0' => some { d with zeros := true }
  | _ => none

/-- Zeros fill numbers only, and only on their left. -/
def layout (d : Directive) (numeric : Bool) : Layout :=
  let filled := numeric && d.zeros && !d.left
  { fill := if filled then '0' else ' '
    align := if d.left then .left else if filled then .afterSign else .right
    sign := if d.plus then some '+' else if d.blank then some ' ' else none
    positiveZero := false
    alternate := d.alternate
    width := d.width
    separator := none
    precision := d.precision
    presentation := none }

def checked (d : Directive) (text : Unit → List Char) : Except DirectiveFault (List Char) :=
  if maxLength < d.width then .error .tooLarge else .ok (text ())

def ofText (d : Directive) (s : String) : Except DirectiveFault (List Char) :=
  let cs := match d.precision with
    | some count => s.toList.take count
    | none => s.toList
  d.checked fun () => (d.layout false).pad cs

def ofChar (d : Directive) (c : Char) : Except DirectiveFault (List Char) :=
  d.checked fun () => (d.layout false).pad [c]

/-- A value as one character: a text of length one, or a code point. -/
def charOf (v : Value) : Except DirectiveFault Char :=
  match v, v.whole? with
  | .text s, _ =>
    match s.toList with
    | [c] => .ok c
    | _ => .error .notChar
  | _, some n => if n < 0 ∨ 0x10ffff < n then .error .charRange else .ok (Char.ofNat n.toNat)
  | _, none => .error .notChar

/-- The greatest count of digits that a whole number can be asked to have. -/
def maxDigits : Nat := 2147483644

/-- Only decimal numerals can be too long. -/
def checkNumeral (base : Nat) (n : Int) : Except DirectiveFault Unit :=
  if base = 10 then ((Numeral.write n).mapError .tooLong).map fun _ => () else .ok ()

def ofWhole (d : Directive) (base : Nat) (mark : List Char) (upper : Bool) (n : Int) :
    Except DirectiveFault (List Char) := do
  let least := d.precision.getD 0
  if maxDigits < least then throw .precisionRange
  checkNumeral base n
  if maxLength < least then throw .tooLarge
  else
    d.checked fun () =>
      let digits := paddedTo least (Nat.toDigits base n.natAbs)
      (d.layout true).number 3
        ⟨n < 0, if d.alternate then mark else [], if upper then upperChars digits else digits, []⟩
where
  paddedTo (least : Nat) (digits : List Char) : List Char :=
    List.replicate (least - digits.length) '0' ++ digits

/-- A value that must be a whole number. -/
def exactOf (code : Char) (v : Value) : Except DirectiveFault Int :=
  v.whole?.elim (.error (.notWhole code v.kind)) .ok

/-- The whole number that a value stands for; a float loses its fraction. -/
def wholeOf (code : Char) (v : Value) : Except DirectiveFault Int :=
  match v with
  | .float .nan => .error .wholeOfNan
  | .float (.infinite _) => .error .wholeOfInfinite
  | .float (.finite negative mantissa exponent) =>
    let size : Int := (Binary64.magnitude mantissa exponent).whole
    .ok (if negative then -size else size)
  | v => v.whole?.elim (.error (.notReal code v.kind)) .ok

def floatOf (v : Value) : Except DirectiveFault Binary64 :=
  match v with
  | .float x => .ok x
  | v =>
    match v.whole? with
    | some n => (Binary64.ofInt? n).elim (.error .floatRange) .ok
    | none => .error (.notFloat v.kind)

def ofFloat (d : Directive) (code : Char) (x : Binary64) : Except DirectiveFault (List Char) :=
  let basic := some (basicCode code)
  let finish (negative : Bool) (parts : List Char × List Char) : List Char :=
    let parts := if code.isUpper then (upperChars parts.1, upperChars parts.2) else parts
    (d.layout true).number 3 ⟨negative, [], parts.1, parts.2⟩
  match x with
  | .nan => d.checked fun () => finish false ([], ['n', 'a', 'n'])
  | .infinite negative => d.checked fun () => finish negative ([], ['i', 'n', 'f'])
  | .finite negative mantissa exponent =>
    if asksTooMuch basic d.alternate d.precision then .error .tooLarge
    else
      d.checked fun () =>
        finish negative (floatParts basic d.alternate d.precision mantissa exponent)

/-- A text that shows a value, unless a numeral in the value is too long to be written. -/
def ofShown (d : Directive) (v : Value) (text : String) : Except DirectiveFault (List Char) := do
  d.ofText (← (v.showIn text).mapError .tooLong)

/-- A value laid out by a code, which stands at an index of the template. -/
def layOut (d : Directive) (code : Char) (index : Nat) (v : Value) :
    Except DirectiveFault (List Char) :=
  match code with
  | 's' => d.ofShown v v.written
  | 'r' => d.ofShown v v.shown
  | 'a' => d.ofShown v (Text.ascii v.shown)
  | 'c' => do d.ofChar (← charOf v)
  | 'd' | 'i' | 'u' => do d.ofWhole 10 [] false (← wholeOf code v)
  | 'o' => do d.ofWhole 8 ['0', 'o'] false (← exactOf code v)
  | 'x' => do d.ofWhole 16 ['0', 'x'] false (← exactOf code v)
  | 'X' => do d.ofWhole 16 ['0', 'X'] true (← exactOf code v)
  | 'e' | 'E' | 'f' | 'F' | 'g' | 'G' => do d.ofFloat code (← floatOf v)
  | _ => .error (.unknownCode code index)

end Directive

end DropletReconciler.Template.Percent
