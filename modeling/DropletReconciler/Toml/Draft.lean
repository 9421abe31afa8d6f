import DropletReconciler.Value

/-!
A TOML document while it is being read. A table may be spelled out in several places; the draft
remembers which of its tables are still open for that.
-/

namespace DropletReconciler.Toml

/-- How a table came to be: on the way to a table below it, by dotted keys in one section of the
document, or by its own header. -/
inductive Origin where
  | implied
  | dotted (part : Nat)
  | declared
  deriving DecidableEq, Repr

/-- Dotted keys of one section may go on with the tables that they made, and with implied ones. -/
def Origin.admits (origin : Origin) (part : Nat) : Bool :=
  match origin with
  | .implied => true
  | .dotted p => p == part
  | .declared => false

/-- An array of tables holds its last table apart; only that one can grow. -/
inductive Node where
  | leaf (v : Value)
  | table (origin : Origin) (fields : List (String × Node))
  | array (finished : List Value) (fields : List (String × Node))

abbrev Draft := List (String × Node)

mutual

def Node.value : Node → Value
  | .leaf v => v
  | .table _ fields => .table (Node.fieldValues fields)
  | .array finished fields => .list (finished ++ [.table (Node.fieldValues fields)])

def Node.fieldValues : List (String × Node) → List (String × Value)
  | [] => []
  | (key, node) :: rest => (key, node.value) :: Node.fieldValues rest

end

namespace Draft

/-- The table that a draft spells out. -/
def values (draft : Draft) : Table := Node.fieldValues draft

/-- Changes the entry of a key; a new one goes to the end. -/
def update (key : String) (change : Option Node → Option Node) : Draft → Option Draft
  | [] => (change none).map fun node => [(key, node)]
  | (k, node) :: rest =>
    if k = key then (change (some node)).map fun node => (k, node) :: rest
    else (update key change rest).map fun rest => (k, node) :: rest

/-- Changes the table at a path. Tables on the way are made where there are none, and an array of
tables stands for its last one. -/
def within (change : Draft → Option Draft) : List String → Draft → Option Draft
  | [], draft => change draft
  | key :: path, draft =>
    draft.update key fun node =>
      match node with
      | none => (within change path []).map (.table .implied)
      | some (.leaf _) => none
      | some (.table origin fields) => (within change path fields).map (.table origin)
      | some (.array finished fields) => (within change path fields).map (.array finished)

/-- Gives a value to a key, which must be new. -/
def assign (part : Nat) (value : Value) : List String → Draft → Option Draft
  | [], _ => none
  | [key], draft =>
    draft.update key fun node =>
      match node with
      | none => some (.leaf value)
      | some _ => none
  | key :: path, draft =>
    draft.update key fun node =>
      match node with
      | none => (assign part value path []).map (.table (.dotted part))
      | some (.table origin fields) =>
        if origin.admits part then (assign part value path fields).map (.table (.dotted part))
        else none
      | some _ => none

/-- Opens a table by its header. -/
def declareHere (key : String) (draft : Draft) : Option Draft :=
  draft.update key fun node =>
    match node with
    | none => some (.table .declared [])
    | some (.table .implied fields) => some (.table .declared fields)
    | some _ => none

/-- Starts a new table in an array of tables. -/
def appendHere (key : String) (draft : Draft) : Option Draft :=
  draft.update key fun node =>
    match node with
    | none => some (.array [] [])
    | some (.array finished fields) =>
      some (.array (finished ++ [.table (Node.fieldValues fields)]) [])
    | some _ => none

/-- Applies a change that concerns the last part of a path to the table before it. -/
def atLast (change : String → Draft → Option Draft) (path : List String) (draft : Draft) :
    Option Draft :=
  match path.getLast? with
  | none => none
  | some key => within (change key) path.dropLast draft

def declare (path : List String) (draft : Draft) : Option Draft := atLast declareHere path draft

def append (path : List String) (draft : Draft) : Option Draft := atLast appendHere path draft

end Draft

end DropletReconciler.Toml
