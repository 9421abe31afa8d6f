import DropletReconciler.Value.Access
import DropletReconciler.Value.Alike

/-!
Tables spelled out in pairs of a key and a value. Keys that are alike are one key: the first one
keeps its place and the last value counts.
-/

namespace DropletReconciler.Value

/-- Adds a pair; a known key keeps its place. -/
def putPair (key value : Value) : List (Value × Value) → List (Value × Value)
  | [] => [(key, value)]
  | (k, v) :: rest => if k.alike key then (k, value) :: rest else (k, v) :: putPair key value rest

/-- The pairs that a value spells out, each key once. -/
def distinctPairs (v : Value) : Except Misuse (List (Value × Value)) := do
  let pairs ← v.pairs
  pure (pairs.foldl (fun kept (key, value) => putPair key value kept) [])

/-- The table that a value spells out, its keys as texts. -/
def toTable (v : Value) : Except Misuse Table := do
  let pairs ← v.distinctPairs
  pure (pairs.map fun (key, value) => (key.written, value))

end DropletReconciler.Value
