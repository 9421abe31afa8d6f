import DropletReconciler.Condition
import DropletReconciler.Identity
import DropletReconciler.Parameters
import DropletReconciler.Value.Alike

/-!
The record of a droplet: what is wanted, and what the provider last showed.
-/

namespace DropletReconciler

/-- What becomes of the droplet when its record is deleted. -/
inductive DeletionPolicy where
  | delete
  | orphan
  deriving DecidableEq, Repr

namespace DeletionPolicy

/-- A value that names no policy. -/
structure Unknown where
  value : Value
  deriving DecidableEq, Repr

def Unknown.message (fault : Unknown) : String :=
  match fault.value.showIn (fault.value.shown ++ " is not a valid DeletionPolicy") with
  | .ok message => message
  | .error long => long.message

def word : DeletionPolicy → String
  | .delete => "Delete"
  | .orphan => "Orphan"

def ofValue (v : Value) : Except Unknown DeletionPolicy :=
  if v = .text "Delete" then .ok .delete
  else if v = .text "Orphan" then .ok .orphan
  else .error ⟨v⟩

end DeletionPolicy

/-- What the provider shows of a droplet, as it came. -/
structure Observation where
  id : Value
  created : Value
  status : Value
  deriving DecidableEq, Repr

/-- The observation of a record that no droplet belongs to. -/
def Observation.none : Observation := ⟨.null, .text "", .text ""⟩

/-- The part of a droplet that a record keeps. -/
def Observation.ofDroplet (droplet : Value) : Except Value.Misuse Observation := do
  let id ← droplet.field "id"
  let created ← droplet.get? "created_at"
  let status ← droplet.get? "status"
  pure ⟨id, created.getD (.text ""), status.getD (.text "")⟩

structure Record where
  name : String
  externalName : String
  parameters : Parameters
  providerConfig : String
  deletionPolicy : DeletionPolicy
  observation : Observation
  conditions : List Condition
  kind : String
  deriving DecidableEq, Repr

/-- Equality in which numbers and tables that the provider shows need only be alike. -/
def Observation.alike (a b : Observation) : Bool :=
  a.id.alike b.id && a.created.alike b.created && a.status.alike b.status

def Record.alike (r s : Record) : Bool :=
  r.observation.alike s.observation && r == { s with observation := r.observation }

def Record.identity (r : Record) : Except Numeral.TooLong Identity := Identity.parse r.externalName

/-- What an operation is given as its record. -/
inductive Subject where
  | record (r : Record)
  | other (typeName : String) (kind : Option Value)
  deriving DecidableEq, Repr

/-- The kind of record that the operations accept. -/
def dropletKind : String := "Droplet"

/-- A record of the right kind. -/
def Subject.droplet? : Subject → Option Record
  | .record r => if r.kind = dropletKind then some r else none
  | .other _ _ => none

/-- The kind that a subject has, or the name of its type. -/
def Subject.writeKind : Subject → Except Numeral.TooLong String
  | .record r => .ok r.kind
  | .other typeName kind => (kind.map Value.write).getD (.ok typeName)

end DropletReconciler
