import DropletReconciler.Binary64
import DropletReconciler.Moment

/-!
Untyped data: what a provider answers and what a configuration file holds.
-/

namespace DropletReconciler

/-- A table keeps the order of its keys and has each of them once. -/
inductive Value where
  | null
  | bool (b : Bool)
  | int (n : Int)
  | float (x : Binary64)
  | text (s : String)
  | moment (m : Moment)
  | list (items : List Value)
  | table (fields : List (String × Value))
  deriving Repr

/-- The fields of a table, in order. -/
abbrev Table := List (String × Value)

namespace Value

instance : Inhabited Value := ⟨.null⟩

mutual

protected def decEq : (a b : Value) → Decidable (a = b)
  | .null, .null => isTrue rfl
  | .bool a, .bool b => decidable_of_iff (a = b) (by simp)
  | .int a, .int b => decidable_of_iff (a = b) (by simp)
  | .float a, .float b => decidable_of_iff (a = b) (by simp)
  | .text a, .text b => decidable_of_iff (a = b) (by simp)
  | .moment a, .moment b => decidable_of_iff (a = b) (by simp)
  | .list a, .list b =>
    match Value.decEqItems a b with
    | isTrue h => isTrue (by rw [h])
    | isFalse h => isFalse (by simpa using h)
  | .table a, .table b =>
    match Value.decEqFields a b with
    | isTrue h => isTrue (by rw [h])
    | isFalse h => isFalse (by simpa using h)
  | .null, .bool _ | .null, .int _ | .null, .float _ | .null, .text _ | .null, .moment _
  | .null, .list _ | .null, .table _ => isFalse (by simp)
  | .bool _, .null | .bool _, .int _ | .bool _, .float _ | .bool _, .text _ | .bool _, .moment _
  | .bool _, .list _ | .bool _, .table _ => isFalse (by simp)
  | .int _, .null | .int _, .bool _ | .int _, .float _ | .int _, .text _ | .int _, .moment _
  | .int _, .list _ | .int _, .table _ => isFalse (by simp)
  | .float _, .null | .float _, .bool _ | .float _, .int _ | .float _, .text _
  | .float _, .moment _ | .float _, .list _ | .float _, .table _ => isFalse (by simp)
  | .text _, .null | .text _, .bool _ | .text _, .int _ | .text _, .float _ | .text _, .moment _
  | .text _, .list _ | .text _, .table _ => isFalse (by simp)
  | .moment _, .null | .moment _, .bool _ | .moment _, .int _ | .moment _, .float _
  | .moment _, .text _ | .moment _, .list _ | .moment _, .table _ => isFalse (by simp)
  | .list _, .null | .list _, .bool _ | .list _, .int _ | .list _, .float _ | .list _, .text _
  | .list _, .moment _ | .list _, .table _ => isFalse (by simp)
  | .table _, .null | .table _, .bool _ | .table _, .int _ | .table _, .float _
  | .table _, .text _ | .table _, .moment _ | .table _, .list _ => isFalse (by simp)

protected def decEqItems : (a b : List Value) → Decidable (a = b)
  | [], [] => isTrue rfl
  | a :: as, b :: bs =>
    match Value.decEq a b, Value.decEqItems as bs with
    | isTrue h, isTrue hs => isTrue (by rw [h, hs])
    | isFalse h, _ => isFalse (by simp [h])
    | _, isFalse hs => isFalse (by simp [hs])
  | [], _ :: _ => isFalse (by simp)
  | _ :: _, [] => isFalse (by simp)

protected def decEqFields : (a b : List (String × Value)) → Decidable (a = b)
  | [], [] => isTrue rfl
  | (k, a) :: as, (l, b) :: bs =>
    if hk : k = l then
      match Value.decEq a b, Value.decEqFields as bs with
      | isTrue h, isTrue hs => isTrue (by rw [hk, h, hs])
      | isFalse h, _ => isFalse (by simp [h])
      | _, isFalse hs => isFalse (by simp [hs])
    else isFalse (by simp [hk])
  | [], _ :: _ => isFalse (by simp)
  | _ :: _, [] => isFalse (by simp)

end

instance : DecidableEq Value := Value.decEq

/-- The sort of a value, without its content. -/
inductive Kind where
  | null
  | bool
  | int
  | float
  | text
  | dateTime
  | date
  | time
  | list
  | table
  deriving DecidableEq, Repr

def kind : Value → Kind
  | .null => .null
  | .bool _ => .bool
  | .int _ => .int
  | .float _ => .float
  | .text _ => .text
  | .moment (.date _) => .date
  | .moment (.time _) => .time
  | .moment (.dateTime _ _ _) => .dateTime
  | .list _ => .list
  | .table _ => .table

/-- The word for a sort of value in error messages. -/
def Kind.word : Kind → String
  | .null => "NoneType"
  | .bool => "bool"
  | .int => "int"
  | .float => "float"
  | .text => "str"
  | .dateTime => "datetime.datetime"
  | .date => "datetime.date"
  | .time => "datetime.time"
  | .list => "list"
  | .table => "dict"

/-- The last part of the word. -/
def Kind.name : Kind → String
  | .dateTime => "datetime"
  | .date => "date"
  | .time => "time"
  | kind => kind.word

/-- Null, false, zero and empty values count as absent. -/
def isPresent : Value → Bool
  | .null => false
  | .bool b => b
  | .int n => n != 0
  | .float x => !x.isZero
  | .text s => !s.isEmpty
  | .moment _ => true
  | .list items => !items.isEmpty
  | .table fields => !fields.isEmpty

/-- Lists and tables cannot be looked up among other values. -/
def canBeKey : Value → Bool
  | .list _ => false
  | .table _ => false
  | _ => true

/-- A whole number; true is one and false is zero. -/
def whole? : Value → Option Int
  | .int n => some n
  | .bool b => some (if b then 1 else 0)
  | _ => none

/-- Numeric equality with an integer, in which true is one and false is zero. -/
def equalsInt (v : Value) (n : Int) : Bool :=
  match v with
  | .bool b => (if b then 1 else 0) == n
  | .int m => m == n
  | .float x => x.equalsInt n
  | _ => false

end Value

namespace Table

def get? (key : String) (fields : Table) : Option Value := fields.lookup key

def keys (fields : Table) : List String := fields.map Prod.fst

/-- A new key goes to the end; a known one keeps its place. -/
def put (key : String) (value : Value) : Table → Table
  | [] => [(key, value)]
  | (k, v) :: rest => if k = key then (k, value) :: rest else (k, v) :: put key value rest

def erase (key : String) (fields : Table) : Table := fields.filter fun field => field.1 ≠ key

end Table

end DropletReconciler
