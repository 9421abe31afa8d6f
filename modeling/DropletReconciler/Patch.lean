import DropletReconciler.Record

/-!
Changes to a record that an operation asks for. Operations never change a record themselves.
-/

namespace DropletReconciler

/-- `none` leaves a part of the record as it is. -/
structure Patch where
  externalName : Option String
  parameters : Option Parameters
  observation : Option Observation
  conditions : List Condition
  deriving DecidableEq, Repr

namespace Patch

/-- The patch that changes nothing. -/
def empty : Patch := ⟨none, none, none, []⟩

def ofCondition (condition : Condition) : Patch := { empty with conditions := [condition] }

def isEmpty (p : Patch) : Bool :=
  p.externalName.isNone && p.parameters.isNone && p.observation.isNone && p.conditions.isEmpty

def apply (p : Patch) (r : Record) : Record :=
  { r with
    externalName := p.externalName.getD r.externalName
    parameters := p.parameters.getD r.parameters
    observation := p.observation.getD r.observation
    conditions := Condition.merge r.conditions p.conditions }

/-- Applies patches one after another. -/
def applyAll (patches : List Patch) (r : Record) : Record :=
  patches.foldl (fun r p => p.apply r) r

end Patch

end DropletReconciler
