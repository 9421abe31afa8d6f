import DropletReconciler.Numeral
import DropletReconciler.Text.Blank

/-!
Sizes at which a log file is rotated, written as a number and a unit.
-/

namespace DropletReconciler.Log

def usualRotation : Nat := 50 * 1024 * 1024

/-- The bytes in a unit, whose letters may be of either case. -/
def unitSize? (unit : List Char) : Option Nat :=
  match unit.map Char.toUpper with
  | ['K', 'B'] => some 1024
  | ['M', 'B'] => some (1024 * 1024)
  | _ => none

/-- A number of decimal digits and a unit; the usual size for every other text. -/
def rotationBytes (rotation : String) : Except Numeral.TooLong Nat :=
  match Text.words rotation.toList with
  | [number, unit] =>
    match unitSize? unit, Numeral.digits? number with
    | some size, some digits => (Numeral.read digits).map (· * size)
    | _, _ => .ok usualRotation
  | _ => .ok usualRotation

end DropletReconciler.Log
