import DropletReconciler.Value.Text

/-!
Access to untyped data. Each access names the one shape it accepts and reports any other.
-/

namespace DropletReconciler.Value

/-- An access that a value does not support. -/
inductive Misuse where
  | noMember (kind : Kind) (name : String)
  | notIterable (kind : Kind)
  | notSearchable (kind : Kind)
  | notIndexable (kind : Kind)
  | listKey
  | textKey
  | listRange
  | textRange
  | missingKey (key : Value)
  | notKey (kind : Kind)
  | unordered (relation : String) (kind : Kind)
  | notText (kind : Kind)
  | itemNotText (index : Nat) (kind : Kind)
  | notPair (index : Nat)
  | pairLength (index length : Nat)
  | unwritable (fault : Numeral.TooLong)
  deriving DecidableEq, Repr

def Misuse.message : Misuse → String
  | .noMember kind name => s!"'{kind.word}' object has no attribute '{name}'"
  | .notIterable kind => s!"'{kind.word}' object is not iterable"
  | .notSearchable kind => s!"argument of type '{kind.word}' is not iterable"
  | .notIndexable kind => s!"'{kind.word}' object is not subscriptable"
  | .listKey => "list indices must be integers or slices, not str"
  | .textKey => "string indices must be integers, not 'str'"
  | .listRange => "list index out of range"
  | .textRange => "string index out of range"
  | .missingKey key => key.shown
  | .notKey kind => s!"unhashable type: '{kind.word}'"
  | .unordered relation kind =>
    s!"'{relation}' not supported between instances of '{kind.word}' and 'int'"
  | .notText kind => s!"str expected, not {kind.name}"
  | .itemNotText index kind => s!"sequence item {index}: expected str instance, {kind.word} found"
  | .notPair index => s!"cannot convert dictionary update sequence element #{index} to a sequence"
  | .pairLength index length =>
    s!"dictionary update sequence element #{index} has length {length}; 2 is required"
  | .unwritable fault => fault.message

/-- The field of a table, if the table has it. -/
def get? (v : Value) (key : String) : Except Misuse (Option Value) :=
  match v with
  | .table fields => .ok (Table.get? key fields)
  | v => .error (.noMember v.kind "get")

/-- The field of a table, which must have it. -/
def field (v : Value) (key : String) : Except Misuse Value :=
  match v with
  | .table fields =>
    match Table.get? key fields with
    | some value => .ok value
    | none => .error (.missingKey (.text key))
  | .list _ => .error .listKey
  | .text _ => .error .textKey
  | v => .error (.notIndexable v.kind)

def ofChar (c : Char) : Value := .text c.toString

/-- The item at an index of a list or a text; a table has fields only. -/
def item (v : Value) (index : Nat) : Except Misuse Value :=
  match v with
  | .list items => (items[index]?).elim (.error .listRange) .ok
  | .text s => (s.toList[index]?).elim (.error .textRange) fun c => .ok (ofChar c)
  | .table _ => .error (.missingKey (.int index))
  | v => .error (.notIndexable v.kind)

/-- The items of a list, the characters of a text and the keys of a table. -/
def items : Value → Except Misuse (List Value)
  | .list items => .ok items
  | .text s => .ok (s.toList.map ofChar)
  | .table fields => .ok (fields.map fun field => .text field.1)
  | v => .error (.notIterable v.kind)

/-- The items as a set: none of them may be a list or a table. -/
def members (v : Value) : Except Misuse (List Value) := do
  let items ← v.items
  match items.find? fun item => !item.canBeKey with
  | some item => throw (.notKey item.kind)
  | none => pure items

/-- The items as texts. -/
def texts (v : Value) : Except Misuse (List String) := do
  (← v.items).mapM fun item => item.write.mapError .unwritable

/-- Comparison of a number with an integer; true is one and false is zero. -/
def leInt (v : Value) (n : Int) : Except Misuse Bool :=
  match v with
  | .bool b => .ok ((if b then 1 else 0) ≤ n)
  | .int m => .ok (m ≤ n)
  | .float x => .ok (x.leInt n)
  | v => .error (.unordered "<=" v.kind)

def geInt (v : Value) (n : Int) : Except Misuse Bool :=
  match v with
  | .bool b => .ok (n ≤ (if b then 1 else 0))
  | .int m => .ok (n ≤ m)
  | .float x => .ok (x.geInt n)
  | v => .error (.unordered ">=" v.kind)

/-- The items joined by commas; each must be a text. -/
def joinTexts (v : Value) : Except Misuse String := do
  let items ← v.items
  let texts ← (items.zipIdx).mapM fun (item, index) =>
    match item with
    | .text s => Except.ok s
    | item => .error (.itemNotText index item.kind)
  pure (String.intercalate ", " texts)

/-- The two parts of an item that stands for a key and its value. -/
def asPair (index : Nat) (item : Value) : Except Misuse (Value × Value) :=
  match item.items with
  | .error _ => .error (.notPair index)
  | .ok [key, value] => if key.canBeKey then .ok (key, value) else .error (.notKey key.kind)
  | .ok parts => .error (.pairLength index parts.length)

/-- The fields of a table, or the pairs that a list or a text spells out. -/
def pairs : Value → Except Misuse (List (Value × Value))
  | .table fields => .ok (fields.map fun field => (.text field.1, field.2))
  | v => do
    let items ← v.items
    items.zipIdx.mapM fun (item, index) => asPair index item

end DropletReconciler.Value
