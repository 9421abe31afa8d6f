import DropletReconciler.Template.Layout.Float

/-!
Whole numbers in a layout: in one of four bases, as the character of a code point, or as a float.
-/

namespace DropletReconciler.Template

/-- The character of a code point. -/
def Layout.ofCodePoint (layout : Layout) (n : Int) : Except LayoutFault (List Char) :=
  if layout.sign.isSome then .error .charSign
  else if layout.alternate then .error .charAlternate
  else if n < -(maxSize + 1) ∨ (maxSize : Int) < n then .error .charSize
  else if n < 0 ∨ 0x10ffff < n then .error .charRange
  else layout.checked fun () => layout.number 3 ⟨false, [], [], [Char.ofNat n.toNat]⟩

/-- A whole number in a base, with the mark of the base in the alternate form. -/
def Layout.ofInt (layout : Layout) (base : Nat) (mark : List Char) (n : Int) : List Char :=
  layout.number (if base = 10 then 3 else 4)
    ⟨n < 0, if layout.alternate then mark else [], Nat.toDigits base n.natAbs, []⟩

def Layout.ofUpperHex (layout : Layout) (n : Int) : List Char :=
  layout.number 4
    ⟨n < 0, if layout.alternate then ['0', 'X'] else [], upperChars (Nat.toDigits 16 n.natAbs), []⟩

/-- The presentations that show a fraction. -/
def isFloatCode (code : Char) : Bool := ['e', 'E', 'f', 'F', 'g', 'G', '%'].contains code

/-- The presentations of whole numbers. -/
def isWholeCode (code : Char) : Bool := ['b', 'c', 'd', 'o', 'x', 'X', 'n'].contains code

/-- A whole number, or one whose presentation asks for a fraction. -/
def Layout.ofWhole (layout : Layout) (kind : Value.Kind) (n : Int) :
    Except LayoutFault (List Char) :=
  let code := layout.presentation.getD 'd'
  if isFloatCode code then
    match Binary64.ofInt? n with
    | some x => layout.ofFloat x
    | none => .error .floatRange
  else if !isWholeCode code then .error (.unknownCode code kind)
  else if layout.precision.isSome then .error .intPrecision
  else if layout.positiveZero then .error .intZero
  else
    match code with
    | 'c' => layout.ofCodePoint n
    | 'b' => layout.checked fun () => layout.ofInt 2 ['0', 'b'] n
    | 'o' => layout.checked fun () => layout.ofInt 8 ['0', 'o'] n
    | 'x' => layout.checked fun () => layout.ofInt 16 ['0', 'x'] n
    | 'X' => layout.checked fun () => layout.ofUpperHex n
    | _ => do
      let _ ← (Numeral.write n).mapError .tooLong
      layout.checked fun () => layout.ofInt 10 [] n

end DropletReconciler.Template
