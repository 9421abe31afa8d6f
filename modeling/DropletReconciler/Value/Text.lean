import DropletReconciler.Binary64.Written
import DropletReconciler.Numeral
import DropletReconciler.Text.Quoted
import DropletReconciler.Value

/-!
Values as text. Inside a list or a table a text is quoted and a moment is shown by its parts; on
their own they are written plainly.
-/

namespace DropletReconciler.Value

def boolWord (b : Bool) : String := if b then "True" else "False"

/-- The parts of a list or table between brackets. -/
def bracketed (opening closing : String) (parts : List String) : String :=
  opening ++ String.intercalate ", " parts ++ closing

mutual

/-- A value as it stands inside a list or a table. -/
def shown : Value → String
  | .null => "None"
  | .bool b => boolWord b
  | .int n => toString n
  | .float x => x.written
  | .text s => Text.quoted s
  | .moment m => m.shown
  | .list items => bracketed "[" "]" (shownItems items)
  | .table fields => bracketed "\x7b" "\x7d" (shownFields fields)

def shownItems : List Value → List String
  | [] => []
  | item :: rest => item.shown :: shownItems rest

def shownFields : List (String × Value) → List String
  | [] => []
  | (key, value) :: rest => (Text.quoted key ++ ": " ++ value.shown) :: shownFields rest

end

/-- A value as it stands in a sentence. -/
def written : Value → String
  | .text s => s
  | .moment m => m.writtenWith " "
  | v => v.shown

/-- The same for a value that is no list or table, whose numeral may be too long. -/
def writeScalar : Value → Except Numeral.TooLong String
  | .int n => Numeral.write n
  | v => .ok v.written

mutual

/-- Whether no numeral in a value is too long to be written. -/
def isWritable : Value → Bool
  | .int n => n.natAbs < Nat.pow 10 Numeral.maxDigits
  | .list items => itemsWritable items
  | .table fields => fieldsWritable fields
  | _ => true

def itemsWritable : List Value → Bool
  | [] => true
  | item :: rest => item.isWritable && itemsWritable rest

def fieldsWritable : List (String × Value) → Bool
  | [] => true
  | (_, value) :: rest => value.isWritable && fieldsWritable rest

end

/-- A text that shows a value, unless a numeral in the value is too long to be written. -/
def showIn (v : Value) (text : String) : Except Numeral.TooLong String :=
  if v.isWritable then .ok text else .error ⟨none⟩

/-- A value as it stands in a sentence, unless a numeral in it is too long to be written. -/
def write (v : Value) : Except Numeral.TooLong String := v.showIn v.written

@[simp] theorem written_text (s : String) : (Value.text s).written = s := rfl

theorem isWritable_int {n : Int} :
    (Value.int n).isWritable = true ↔ n.natAbs < Nat.pow 10 Numeral.maxDigits := by
  simp only [isWritable, decide_eq_true_eq]

theorem write_of_isWritable {v : Value} (h : v.isWritable = true) : v.write = .ok v.written :=
  if_pos h

theorem write_of_not_isWritable {v : Value} (h : ¬ v.isWritable = true) :
    v.write = .error ⟨none⟩ :=
  if_neg h

end DropletReconciler.Value
