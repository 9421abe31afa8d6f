import DropletReconciler.Template.Layout.Value
import DropletReconciler.Template.Reached
import DropletReconciler.Template.Scan

/-!
Templates filled with values. Pieces are filled from left to right, so the first piece that cannot
be filled gives the fault, and a fault of the template itself comes after all pieces before it.
-/

namespace DropletReconciler.Template

inductive Fault where
  | scan (fault : ScanFault)
  | path (fault : PathFault)
  | layout (fault : LayoutFault)
  | reach (fault : ReachFault)
  | noPositional (index : Nat)
  | noNamed (name : String)
  | numberedAfterAutomatic
  | automaticAfterNumbered
  | unknownConversion (code : Char)
  | tooDeep
  deriving DecidableEq, Repr

def Fault.message : Fault → String
  | .scan fault => fault.message
  | .path fault => fault.message
  | .layout fault => fault.message
  | .reach fault => fault.message
  | .noPositional index =>
    "Replacement index " ++ toString index ++ " out of range for positional args tuple"
  | .noNamed name => (Value.text name).shown
  | .numberedAfterAutomatic =>
    "cannot switch from automatic field numbering to manual field specification"
  | .automaticAfterNumbered =>
    "cannot switch from manual field specification to automatic field numbering"
  | .unknownConversion code =>
    if 32 < code.toNat ∧ code.toNat < 127 then
      "Unknown conversion specifier " ++ code.toString
    else "Unknown conversion specifier \\x" ++ String.ofList (Nat.toDigits 16 code.toNat)
  | .tooDeep => "Max string recursion exceeded"

/-- The fault of a value with a numeral that is too long to be written. -/
def Fault.tooLong (fault : Numeral.TooLong) : Fault := .layout (.tooLong fault)

/-- The values that fields refer to, by position and by name. -/
structure Arguments where
  positional : List Value
  named : Table

/-- Fields without a name count up; they cannot stand together with numbered ones. -/
inductive Numbering where
  | undecided
  | automatic (next : Nat)
  | numbered
  deriving DecidableEq, Repr

def Arguments.positionalAt (args : Arguments) (index : Nat) : Except Fault Value :=
  (args.positional[index]?).elim (.error (.noPositional index)) .ok

def Arguments.namedAs (args : Arguments) (name : String) : Except Fault Value :=
  (Table.get? name args.named).elim (.error (.noNamed name)) .ok

/-- The value that the first part of a name refers to. -/
def Arguments.first (args : Arguments) (numbering : Numbering) (part : List Char) :
    Except Fault (Value × Numbering) := do
  match ← (readIndex part).mapError .path with
  | some index =>
    match numbering with
    | .automatic _ => throw .numberedAfterAutomatic
    | _ => pure (← args.positionalAt index, .numbered)
  | none =>
    if part.isEmpty then
      match numbering with
      | .numbered => throw .automaticAfterNumbered
      | .undecided => pure (← args.positionalAt 0, .automatic 1)
      | .automatic next => pure (← args.positionalAt next, .automatic (next + 1))
    else pure (← args.namedAs (String.ofList part), numbering)

def follow (v : Value) (path : Steps) : Except Fault Reached := do
  let reached ← path.steps.foldlM
    (fun reached step => (step.apply reached).mapError Fault.reach) (Reached.value v)
  match path.fault with
  | some fault => throw (.path fault)
  | none => pure reached

/-- A text that shows what was reached, unless a numeral in it is too long to be written. -/
def textOf (reached : Reached) (text : String) : Except Fault Reached :=
  match reached with
  | .value v => ((v.showIn text).mapError Fault.tooLong).map .text
  | _ => .ok (.text text)

/-- What was reached as a text, when a conversion asks for one; the null character asks for none. -/
def convert (reached : Reached) : Option Char → Except Fault Reached
  | none => .ok reached
  | some '\x00' => .ok reached
  | some 'r' => textOf reached reached.shown
  | some 's' => textOf reached reached.written
  | some 'a' => textOf reached (Text.ascii reached.shown)
  | some code => .error (.unknownConversion code)

/-- What was reached in a layout; a class has none but the empty one. -/
def layOutReached (reached : Reached) (layout : List Char) : Except LayoutFault (List Char) :=
  match reached with
  | .value v => layOut v layout
  | reached =>
    if layout.isEmpty then .ok reached.written.toList
    else .error (.unsupported reached.classOf.fullName)

/-- How the layout of a field is filled before it is read. -/
abbrev Expand := Numbering → List Char → Except Fault (List Char × Numbering)

def fillField (args : Arguments) (expand : Expand) (numbering : Numbering) (field : Field) :
    Except Fault (List Char × Numbering) := do
  let (found, numbering) ← args.first numbering (firstPart field.name)
  let reached ← follow found (readSteps .between (laterParts field.name))
  let reached ← convert reached field.conversion
  let (layout, numbering) ←
    if field.layout.contains '\x7b' then expand numbering field.layout
    else pure (field.layout, numbering)
  pure (← (layOutReached reached layout).mapError .layout, numbering)

def fillPieces (args : Arguments) (expand : Expand) :
    Numbering → List Piece → Except Fault (List Char × Numbering)
  | numbering, [] => .ok ([], numbering)
  | numbering, .literal c :: rest => do
    let (cs, numbering) ← fillPieces args expand numbering rest
    pure (c :: cs, numbering)
  | numbering, .field f :: rest => do
    let (front, numbering) ← fillField args expand numbering f
    let (back, numbering) ← fillPieces args expand numbering rest
    pure (front ++ back, numbering)

def fillScanned (args : Arguments) (expand : Expand) (numbering : Numbering) (cs : List Char) :
    Except Fault (List Char × Numbering) := do
  let scanned := scan cs
  let filled ← fillPieces args expand numbering scanned.pieces
  match scanned.fault with
  | some fault => throw (.scan fault)
  | none => pure filled

/-- A layout may hold fields, and theirs may not. -/
def expandLayout (args : Arguments) : Expand :=
  fillScanned args fun _ _ => .error .tooDeep

def fill (template : String) (args : Arguments) : Except Fault String := do
  let (cs, _) ← fillScanned args (expandLayout args) .undecided template.toList
  pure (String.ofList cs)

end DropletReconciler.Template
