/-!
Conditions of a record: what state it is in, why, and since when. A record has at most one
condition of each type.
-/

namespace DropletReconciler

structure Condition where
  type : String
  status : String
  reason : String
  time : String
  message : String
  deriving DecidableEq, Repr

namespace Condition

/-- Equality in everything but the time. -/
def sameContent (a b : Condition) : Bool :=
  a.type == b.type && a.status == b.status && a.reason == b.reason && a.message == b.message

def ready (status reason now : String) : Condition := ⟨"Ready", status, reason, now, ""⟩

/-- The droplet is being created. -/
def creating (now : String) : Condition := ready "False" "Creating" now

/-- The droplet is ready for use. -/
def available (now : String) : Condition := ready "True" "Available" now

/-- The droplet cannot be used at present. -/
def unavailable (now : String) : Condition := ready "False" "Unavailable" now

/-- The droplet is being deleted. -/
def deleting (now : String) : Condition := ready "False" "Deleting" now

/-- A condition takes the place of the first one of its type, unless that one has the same content;
one of a new type goes to the end. -/
def put (new : Condition) : List Condition → List Condition
  | [] => [new]
  | current :: rest =>
    if current.type ≠ new.type then current :: put new rest
    else if current.sameContent new then current :: rest
    else new :: rest

/-- Puts conditions one after another. -/
def merge (existing new : List Condition) : List Condition :=
  new.foldl (fun conditions condition => put condition conditions) existing

def ofType? (type : String) (conditions : List Condition) : Option Condition :=
  conditions.find? fun condition => condition.type = type

end Condition

end DropletReconciler
