import DropletReconciler.Action

/-!
A provider kept in memory: its droplets by id, replies prepared for the next calls, and an outage.
-/

namespace DropletReconciler

/-- What a prepared reply does with a call. -/
inductive Reply where
  | raises (fault : Fault)
  | returns (v : Value)
  | usual
  deriving DecidableEq, Repr

structure Cloud where
  droplets : List (Int × Value)
  nextId : Int
  replies : List Reply
  outage : Option Fault
  deriving DecidableEq, Repr

/-- Whether calls are for droplets, or those of the provider's interface, which wraps them. -/
inductive Layer where
  | direct
  | wire
  deriving DecidableEq, Repr

/-- The fault for a droplet that is not there. -/
def Layer.missing (layer : Layer) (id : Value) : Fault :=
  match layer with
  | .direct => (Fault.missing id none).naming id
  | .wire => .raised (.foreign "HttpError") "not found" (some (.int 404))

def Layer.wrap (layer : Layer) (droplet : Value) : Value :=
  match layer with
  | .direct => droplet
  | .wire => .table [("droplet", droplet)]

namespace Cloud

/-- The droplet with an id; an id is found by its number, whatever its sort. -/
def find? (id : Value) (cloud : Cloud) : Option (Int × Value) :=
  cloud.droplets.find? fun entry => id.equalsInt entry.1

/-- The ids that are in use, in order. -/
def ids (cloud : Cloud) : List Int := (cloud.droplets.map Prod.fst).mergeSort

def put (id : Int) (droplet : Value) (cloud : Cloud) : Cloud :=
  { cloud with droplets := (id, droplet) :: cloud.droplets.filter fun entry => entry.1 ≠ id }

def drop (id : Int) (cloud : Cloud) : Cloud :=
  { cloud with droplets := cloud.droplets.filter fun entry => entry.1 ≠ id }

def creationTime : String := "2020-03-04T05:06:07Z"

/-- A droplet that was just created. -/
def newDroplet (id : Int) (name : Value) : Value :=
  .table [("id", .int id), ("name", name), ("status", .text "new"),
    ("created_at", .text creationTime)]

/-- The droplet that a call is about. -/
def entryFor (layer : Layer) (id : Value) (cloud : Cloud) : Except Fault (Int × Value) :=
  if id.canBeKey then
    match cloud.find? id with
    | some entry => .ok entry
    | none => .error (layer.missing id)
  else .error (.misuse (.notKey id.kind))

/-- What a call does when nothing interferes. Where there is nothing to delete, the id is not even
looked up. -/
def usual (layer : Layer) (call : Call) (cloud : Cloud) : Except Fault Value × Cloud :=
  match call with
  | .create request =>
    match Value.field (.table request) "name" with
    | .error fault => (.error (.misuse fault), cloud)
    | .ok name =>
      let droplet := newDroplet cloud.nextId name
      (.ok (layer.wrap droplet),
        { cloud.put cloud.nextId droplet with nextId := cloud.nextId + 1 })
  | .get id => ((cloud.entryFor layer id).map fun entry => layer.wrap entry.2, cloud)
  | .delete id =>
    if cloud.droplets.isEmpty then (.error (layer.missing id), cloud)
    else
      match cloud.entryFor layer id with
      | .error fault => (.error fault, cloud)
      | .ok entry => (.ok .null, cloud.drop entry.1)
  | .close => (.ok .null, cloud)

/-- Prepared replies come before an outage; neither concerns the end of a connection. -/
def answer (layer : Layer) (call : Call) (cloud : Cloud) : Except Fault Value × Cloud :=
  match call, cloud.replies, cloud.outage with
  | .close, _, _ => (.ok .null, cloud)
  | _, .raises fault :: rest, _ => (.error fault, { cloud with replies := rest })
  | _, .returns v :: rest, _ => (.ok v, { cloud with replies := rest })
  | call, .usual :: rest, _ => usual layer call { cloud with replies := rest }
  | _, [], some fault => (.error fault, cloud)
  | call, [], none => usual layer call cloud

end Cloud

end DropletReconciler
