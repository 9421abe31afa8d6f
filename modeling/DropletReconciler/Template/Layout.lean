import DropletReconciler.Text.DecimalDigit
import DropletReconciler.Value.Text

/-!
How a replacement field asks for its value to be laid out: fill, alignment, sign, width, grouping,
precision and presentation.
-/

namespace DropletReconciler.Template

/-- A layout that cannot be read, or that the value does not admit. -/
inductive LayoutFault where
  | tooManyDigits
  | missingPrecision
  | twoSeparators
  | wrongSeparator (mark presentation : Char)
  | invalid (spec : String) (kind : Value.Kind)
  | unknownCode (code : Char) (kind : Value.Kind)
  | textSign
  | textSpace
  | textZero
  | textAlternate
  | textAlign
  | intPrecision
  | intZero
  | charSign
  | charAlternate
  | charRange
  | charSize
  | floatRange
  | precisionRange
  | unsupported (className : String)
  | tooLarge
  | tooLong (fault : Numeral.TooLong)
  deriving DecidableEq, Repr

/-- A character in a message: itself when visible ASCII, else its number. -/
def codeName (c : Char) : String :=
  if 32 < c.toNat ∧ c.toNat < 128 then c.toString
  else "\\x" ++ String.ofList (Nat.toDigits 16 c.toNat)

def LayoutFault.message : LayoutFault → String
  | .tooManyDigits => "Too many decimal digits in format string"
  | .missingPrecision => "Format specifier missing precision"
  | .twoSeparators => "Cannot specify both ',' and '_'."
  | .wrongSeparator mark presentation =>
    "Cannot specify '" ++ mark.toString ++ "' with '" ++ codeName presentation ++ "'."
  | .invalid spec kind =>
    "Invalid format specifier '" ++ spec ++ "' for object of type '" ++ kind.word ++ "'"
  | .unknownCode code kind =>
    "Unknown format code '" ++ codeName code ++ "' for object of type '" ++ kind.word ++ "'"
  | .textSign => "Sign not allowed in string format specifier"
  | .textSpace => "Space not allowed in string format specifier"
  | .textZero => "Negative zero coercion (z) not allowed in string format specifier"
  | .textAlternate => "Alternate form (#) not allowed in string format specifier"
  | .textAlign => "'=' alignment not allowed in string format specifier"
  | .intPrecision => "Precision not allowed in integer format specifier"
  | .intZero => "Negative zero coercion (z) not allowed in integer format specifier"
  | .charSign => "Sign not allowed with integer format specifier 'c'"
  | .charAlternate => "Alternate form (#) not allowed with integer format specifier 'c'"
  | .charRange => "%c arg not in range(0x110000)"
  | .charSize => "Python int too large to convert to C long"
  | .floatRange => "int too large to convert to float"
  | .precisionRange => "precision too big"
  | .unsupported className => "unsupported format string passed to " ++ className ++ ".__format__"
  | .tooLarge => ""
  | .tooLong fault => fault.message

inductive Align where
  | left
  | right
  | center
  | afterSign
  deriving DecidableEq, Repr

def Align.ofChar? : Char → Option Align
  | '<' => some .left
  | '>' => some .right
  | '^' => some .center
  | '=' => some .afterSign
  | _ => none

structure Layout where
  fill : Char
  align : Align
  sign : Option Char
  positiveZero : Bool
  alternate : Bool
  width : Nat
  separator : Option Char
  precision : Option Nat
  presentation : Option Char
  deriving DecidableEq, Repr

def maxSize : Nat := 9223372036854775807

/-- The digits at the start of a text as a number, and what follows them. -/
def readSize : (size : Option Nat) → List Char → Except LayoutFault (Option Nat × List Char)
  | size, [] => .ok (size, [])
  | size, c :: rest =>
    match Text.digitValue? c with
    | none => .ok (size, c :: rest)
    | some digit =>
      let next := 10 * size.getD 0 + digit
      if maxSize < next then .error .tooManyDigits else readSize (some next) rest

/-- Takes a mark from the start of a text. -/
def takeMark (mark : Char) : List Char → Bool × List Char
  | [] => (false, [])
  | c :: rest => if c = mark then (true, rest) else (false, c :: rest)

def takeSign : List Char → Option Char × List Char
  | [] => (none, [])
  | c :: rest => if c = '+' ∨ c = '-' ∨ c = ' ' then (some c, rest) else (none, c :: rest)

/-- A fill character and an alignment, an alignment alone, or neither. -/
def takeAlign : List Char → (Option Char × Option Align) × List Char
  | fill :: mark :: rest =>
    match Align.ofChar? mark, Align.ofChar? fill with
    | some align, _ => ((some fill, some align), rest)
    | none, some align => ((none, some align), mark :: rest)
    | none, none => ((none, none), fill :: mark :: rest)
  | [mark] =>
    match Align.ofChar? mark with
    | some align => ((none, some align), [])
    | none => ((none, none), [mark])
  | [] => ((none, none), [])

def takeSeparator (cs : List Char) : Except LayoutFault (Option Char × List Char) :=
  let (comma, cs) := takeMark ',' cs
  let (underscore, cs) := takeMark '_' cs
  if underscore ∧ (comma ∨ (takeMark ',' cs).1) then .error .twoSeparators
  else .ok (if comma then some ',' else if underscore then some '_' else none, cs)

def takePrecision (cs : List Char) : Except LayoutFault (Option Nat × List Char) :=
  let (point, cs) := takeMark '.' cs
  if point then
    match readSize none cs with
    | .ok (none, _) => .error .missingPrecision
    | result => result
  else .ok (none, cs)

/-- Commas group decimal presentations only, underscores also those with a power-of-two base. The
null character stands for the usual presentation. -/
def separatorFits (separator : Char) (presentation : Option Char) : Bool :=
  match presentation with
  | none => true
  | some c =>
    ['d', 'e', 'f', 'g', 'E', 'G', '%', 'F', '\x00'].contains c ||
      (separator == '_' && ['b', 'o', 'x', 'X'].contains c)

/-- Reads a layout for a kind of value. Numbers are aligned to the right unless it says otherwise,
texts to the left; `usual` is the presentation of a layout that names none. -/
def Layout.read (kind : Value.Kind) (spec : List Char) : Except LayoutFault Layout := do
  let numeric := kind != .text
  let usual : Option Char :=
    if kind = .text then some 's' else if kind = .float then none else some 'd'
  let ((fill, align), cs) := takeAlign spec
  let (sign, cs) := takeSign cs
  let (positiveZero, cs) := takeMark 'z' cs
  let (alternate, cs) := takeMark '#' cs
  let (zeros, cs) := if fill.isNone then takeMark '0' cs else (false, cs)
  let (width, cs) ← readSize none cs
  let (separator, cs) ← takeSeparator cs
  let (precision, cs) ← takePrecision cs
  let presentation ←
    match cs with
    | [] => Except.ok usual
    | [c] => .ok (some c)
    | _ => .error (.invalid (String.ofList spec) kind)
  match separator with
  | some mark =>
    if !separatorFits mark presentation then throw (.wrongSeparator mark (presentation.getD 's'))
  | none => pure ()
  pure
    { fill := fill.getD (if zeros then '0' else ' ')
      align := align.getD (if !numeric then .left else if zeros then .afterSign else .right)
      sign := sign
      positiveZero := positiveZero
      alternate := alternate
      width := width.getD 0
      separator := separator
      precision := precision
      presentation := presentation }

/-- The number of characters that a text can have. -/
def maxLength : Nat := 1073741824

/-- A text of some width at least, if it can be made. -/
def Layout.checked (layout : Layout) (text : Unit → List Char) : Except LayoutFault (List Char) :=
  if maxLength < layout.width then .error .tooLarge else .ok (text ())

/-- Fill characters on the sides that the alignment leaves open. -/
def Layout.pad (layout : Layout) (cs : List Char) : List Char :=
  let missing := layout.width - cs.length
  match layout.align with
  | .left => cs ++ List.replicate missing layout.fill
  | .center =>
    List.replicate (missing / 2) layout.fill ++ cs ++
      List.replicate (missing - missing / 2) layout.fill
  | _ => List.replicate missing layout.fill ++ cs

end DropletReconciler.Template
