import DropletReconciler.Value

/-!
Likeness of values: numbers are alike when they are numerically equal, whatever their sort, and
tables whatever the order of their keys.
-/

namespace DropletReconciler

def Binary64.alike : Binary64 → Binary64 → Bool
  | .nan, _ => false
  | _, .nan => false
  | x, y => (x.isZero && y.isZero) || x == y

namespace Value

def scalarAlike (a b : Value) : Bool :=
  match a.whole?, b.whole? with
  | some m, some n => m == n
  | some m, none => b.equalsInt m
  | none, some n => a.equalsInt n
  | none, none =>
    match a, b with
    | .float x, .float y => x.alike y
    | a, b => a == b

mutual

def alike : Value → Value → Bool
  | .list items, .list others => itemsAlike items others
  | .table fields, .table others => fields.length == others.length && fieldsAlike fields others
  | .null, b => scalarAlike .null b
  | .bool a, b => scalarAlike (.bool a) b
  | .int a, b => scalarAlike (.int a) b
  | .float a, b => scalarAlike (.float a) b
  | .text a, b => scalarAlike (.text a) b
  | .moment a, b => scalarAlike (.moment a) b
  | .list _, _ => false
  | .table _, _ => false

def itemsAlike : List Value → List Value → Bool
  | [], [] => true
  | a :: as, b :: bs => a.alike b && itemsAlike as bs
  | _, _ => false

/-- Each field has its like among the others. -/
def fieldsAlike : List (String × Value) → List (String × Value) → Bool
  | [], _ => true
  | (key, value) :: rest, others =>
    (match Table.get? key others with
      | some other => value.alike other
      | none => false) && fieldsAlike rest others

end

end Value

end DropletReconciler
