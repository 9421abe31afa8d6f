import DropletReconciler.Action
import DropletReconciler.Parameters.Completion
import DropletReconciler.Parameters.Request

/-!
The operations on a droplet and its record: observe, create, update and delete. A droplet cannot be
changed once it exists, so an update does nothing and an observed droplet is always up to date.
-/

namespace DropletReconciler

/-- What an operation found out or did, and the change to the record that it asks for. -/
inductive Outcome where
  | observed (present upToDate : Bool) (patch : Patch)
  | created (assigned : Bool) (patch : Patch)
  | updated (patch : Patch)
  | deleted (patch : Patch)
  deriving DecidableEq, Repr

def Outcome.patch : Outcome → Patch
  | .observed _ _ patch => patch
  | .created _ patch => patch
  | .updated patch => patch
  | .deleted patch => patch

namespace Reconcile

/-- The droplet of the record is not there. -/
def absent : Outcome := .observed false false Patch.empty

/-- The condition that follows from the status of a droplet, if one does. -/
def conditionsFor (now : String) (status : Value) : List Condition :=
  if status = .text "new" then [Condition.creating now]
  else if status = .text "active" then [Condition.available now]
  else []

/-- The outcome for a droplet that was found, with the parameters completed from it if any were. -/
def observedAs (now : String) (completed : Option Parameters) (droplet : Value) :
    Except Fault Outcome :=
  match Observation.ofDroplet droplet with
  | .error fault => .error (.misuse fault)
  | .ok observation =>
    .ok (.observed true true
      { externalName := none
        parameters := completed
        observation := some observation
        conditions := conditionsFor now observation.status })

/-- Completes the parameters from a droplet and stores the record if they changed. -/
def observeFound (now : String) (record : Record) (id : Int) (droplet : Value) :
    Action (Except Fault Outcome) :=
  match record.parameters.completeFrom droplet with
  | .error fault => .done (.error (.misuse fault))
  | .ok parameters =>
    if parameters = record.parameters then .done (observedAs now none droplet)
    else
      .persist { record with parameters := parameters } fun answer =>
        match answer with
        | .error fault => .done (.error (fault.inStage .update none))
        | .ok () => .reporting (.completed id) (.done (observedAs now (some parameters) droplet))

/-- Looks up the droplet of an id. -/
def observeId (now : String) (record : Record) (id : Int) : Action (Except Fault Outcome) :=
  .send (.get (.int id)) fun reply =>
    match reply with
    | .error fault =>
      if fault.isMissing then .reporting (.notFound id) (.done (.ok absent))
      else .done (.error (fault.inStage .observe none))
    | .ok droplet => observeFound now record id droplet

/-- The record in a subject; any other subject is refused. -/
def recordOf (subject : Subject) : Except Fault Record :=
  match subject.droplet? with
  | some record => .ok record
  | none => .error (.refusing dropletKind subject)

/-- A record without an id has no droplet yet. -/
def observe (now : String) (subject : Subject) : Action (Except Fault Outcome) :=
  match recordOf subject with
  | .error fault => .done (.error fault)
  | .ok record =>
    match record.identity with
    | .error fault => .done (.error (.tooLong fault))
    | .ok .unassigned => .done (.ok absent)
    | .ok (.pending name) => .reporting (.noId name) (.done (.ok absent))
    | .ok (.assigned id) => observeId now record id

/-- The id in a reply, which must be a positive number. -/
def acceptId (droplet : Value) : Except Fault Value :=
  match droplet.field "id" with
  | .error fault => .error (.misuse fault)
  | .ok id =>
    match id.leInt 0, id.writeScalar with
    | .error fault, _ => .error (.misuse fault)
    | _, .error fault => .error (.tooLong fault)
    | .ok true, .ok written => .error (.identity (.notPositive written))
    | .ok false, .ok _ => .ok id

/-- The change that a new droplet makes to its record. -/
def creation (now : String) (id : Value) : Patch :=
  { Patch.ofCondition (Condition.creating now) with externalName := some id.written }

/-- What follows from the reply to a request for a droplet. -/
def createReplied (now name : String) (reply : Except Fault Value) :
    Action (Except Fault Outcome) :=
  let patch := Patch.ofCondition (Condition.creating now)
  match reply with
  | .error fault => .done (.error (fault.inStage .create (some patch)))
  | .ok droplet =>
    if droplet.isPresent then
      match acceptId droplet with
      | .error fault => .done (.error fault)
      | .ok id => .reporting (.created name id) (.done (.ok (.created true (creation now id))))
    else .done (.error (.nothingCreated patch))

/-- The name that a droplet is created under: the external name, or that of the record. -/
def nameFor (record : Record) : String :=
  if record.externalName.isEmpty then record.name else record.externalName

/-- A record that has an id is refused. -/
def create (now : String) (subject : Subject) : Action (Except Fault Outcome) :=
  match recordOf subject with
  | .error fault => .done (.error fault)
  | .ok record =>
    match record.identity with
    | .error fault => .done (.error (.tooLong fault))
    | .ok (.assigned id) => .done (.error (.identity (.alreadyBound record.name id)))
    | .ok _ =>
      let name := nameFor record
      .send (.create (record.parameters.request name)) (createReplied now name)

/-- Nothing can be updated, whatever the subject. -/
def update : Action (Except Fault Outcome) := .done (.ok (.updated Patch.empty))

/-- The droplet to delete: the one last observed, or the one that the record is assigned to. -/
def target? (record : Record) : Except Numeral.TooLong (Option Value) :=
  if record.observation.id = .null then
    match record.identity with
    | .error fault => .error fault
    | .ok (.assigned id) => .ok (some (.int id))
    | .ok _ => .ok none
  else .ok (some record.observation.id)

/-- Deletes a droplet; one that is not there counts as deleted. -/
def deleteId (now : String) (id : Value) : Action (Except Fault Outcome) :=
  let patch := Patch.ofCondition (Condition.deleting now)
  .send (.delete id) fun reply =>
    match reply with
    | .ok _ => .reporting (.deleted id) (.done (.ok (.deleted patch)))
    | .error fault =>
      if fault.isMissing then .reporting (.alreadyGone id) (.done (.ok (.deleted patch)))
      else .done (.error (fault.inStage .delete (some patch)))

def delete (now : String) (subject : Subject) : Action (Except Fault Outcome) :=
  match recordOf subject with
  | .error fault => .done (.error fault)
  | .ok record =>
    match target? record with
    | .error fault => .done (.error (.tooLong fault))
    | .ok (some id) => deleteId now id
    | .ok none =>
      .reporting (.neverCreated record.name)
        (.done (.ok (.deleted (Patch.ofCondition (Condition.deleting now)))))

end Reconcile

end DropletReconciler
