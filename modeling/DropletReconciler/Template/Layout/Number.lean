import DropletReconciler.Template.Layout

/-!
Numbers in a layout. A number is written as a sign, a mark of its base, digits that may be grouped,
and a tail of point, fraction and exponent.
-/

namespace DropletReconciler.Template

/-- Digits, the last one first, in groups divided by a separator. Zeros follow until `least`
characters stand; the fuel bounds the count of groups. -/
def groupReversed (size : Nat) (separator : Char) :
    (fuel : Nat) → (digits : List Char) → (least : Nat) → List Char
  | 0, digits, _ => digits
  | fuel + 1, digits, least =>
    let count := min size (max (max digits.length least) 1)
    let taken := digits.take count
    let group := taken ++ List.replicate (count - taken.length) '0'
    let rest := digits.drop count
    if rest.isEmpty ∧ least ≤ count then group
    else group ++ separator :: groupReversed size separator fuel rest (least - count - 1)

def grouped (size : Nat) (separator : Option Char) (digits : List Char) (least : Nat) :
    List Char :=
  match separator with
  | none => List.replicate (least - digits.length) '0' ++ digits
  | some mark =>
    (groupReversed size mark (digits.length + least + 1) digits.reverse least).reverse

/-- The parts of a written number: base mark and digits, then a point, fraction or exponent. -/
structure NumberParts where
  negative : Bool
  mark : List Char
  digits : List Char
  tail : List Char

def signChars (sign : Option Char) (negative : Bool) : List Char :=
  if negative then ['-']
  else match sign with
    | some '+' => ['+']
    | some ' ' => [' ']
    | _ => []

/-- A number in its layout. Zeros that fill the room after the sign are grouped as digits. -/
def Layout.number (layout : Layout) (groupSize : Nat) (n : NumberParts) : List Char :=
  let sign := signChars layout.sign n.negative
  let fixed := sign.length + n.mark.length + n.tail.length
  let least := if layout.fill = '0' ∧ layout.align = .afterSign then layout.width - fixed else 0
  let digits := if n.digits.isEmpty then [] else grouped groupSize layout.separator n.digits least
  let body := n.mark ++ List.replicate (layout.width - fixed - digits.length) layout.fill
  if layout.align = .afterSign then sign ++ body ++ digits ++ n.tail
  else layout.pad (sign ++ n.mark ++ digits ++ n.tail)

end DropletReconciler.Template
