import DropletReconciler.Value

/-!
One table laid over another. Where both hold a table the two are merged, and everywhere else the
upper one wins.
-/

namespace DropletReconciler

mutual

/-- What stands where `upper` is laid over the entry that the lower table has, if any. -/
def Value.over (lower : Option Value) : (upper : Value) → Value
  | .table fields =>
    match lower with
    | some (.table base) => .table (Table.merge base fields)
    | _ => .table fields
  | .null => .null
  | .bool b => .bool b
  | .int n => .int n
  | .float x => .float x
  | .text s => .text s
  | .moment m => .moment m
  | .list items => .list items

/-- The keys of the lower table come first, then the new ones. -/
def Table.merge (base : Table) : (override : List (String × Value)) → Table
  | [] => base
  | (key, value) :: rest =>
    Table.merge (Table.put key (value.over (Table.get? key base)) base) rest

end

mutual

/-- The levels that are merged where `upper` is laid over the entry that the lower table has. -/
def Value.levelsOver (lower : Option Value) : (upper : Value) → Nat
  | .table fields =>
    match lower with
    | some (.table base) => Table.mergeLevels base fields
    | _ => 0
  | _ => 0

/-- The levels on which two tables are merged. -/
def Table.mergeLevels (base : Table) : (override : List (String × Value)) → Nat
  | [] => 1
  | (key, value) :: rest =>
    max (value.levelsOver (Table.get? key base) + 1) (Table.mergeLevels base rest)

end

end DropletReconciler
