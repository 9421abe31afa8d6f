import DropletReconciler.Reconcile

/-!
Passes over a record: operations one after another, in any world, each on the record that the one
before it left.
-/

namespace DropletReconciler

/-- The operations of a reconciliation. -/
inductive Operation where
  | observe
  | create
  | update
  | delete
  deriving DecidableEq, Repr

def Operation.action (now : String) (subject : Subject) : Operation → Action (Except Fault Outcome)
  | .observe => Reconcile.observe now subject
  | .create => Reconcile.create now subject
  | .update => Reconcile.update
  | .delete => Reconcile.delete now subject

/-- The change to the record that an operation leaves behind, also when it fails. -/
def patchLeft : Except Fault Outcome → Patch
  | .ok outcome => outcome.patch
  | .error fault => fault.patch?.getD Patch.empty

/-- The record after an operation. -/
def Record.settle (record : Record) (result : Except Fault Outcome) : Record :=
  (patchLeft result).apply record

/-- An operation and the time that it is done at. -/
structure Turn where
  operation : Operation
  now : String
  deriving DecidableEq, Repr

/-- A turn that was taken: the record that it was for, what came of it, and what it did. -/
structure Taken where
  turn : Turn
  record : Record
  result : Except Fault Outcome
  events : List Event

/-- The record that a turn left. -/
def Taken.settled (taken : Taken) : Record := taken.record.settle taken.result

def Turn.run {σ : Type} (world : World σ) (turn : Turn) (record : Record) (state : σ) :
    Trace σ (Except Fault Outcome) :=
  (turn.operation.action turn.now (.record record)).run world state

/-- The turns of a pass as they are taken, and the state of the world after it. -/
def pass {σ : Type} (world : World σ) : List Turn → Record → σ → List Taken × σ
  | [], _, state => ([], state)
  | turn :: rest, record, state =>
    let trace := turn.run world record state
    let taken : Taken := ⟨turn, record, trace.result, trace.events⟩
    let later := pass world rest taken.settled trace.state
    (taken :: later.1, later.2)

end DropletReconciler
