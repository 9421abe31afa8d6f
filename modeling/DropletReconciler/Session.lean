import DropletReconciler.Client
import DropletReconciler.Cloud
import DropletReconciler.Credentials
import DropletReconciler.Pass

/-!
A session of reconciliation: one record, the connection in use, and the world that they meet. After
each operation the change that it asks for is applied to the record.
-/

namespace DropletReconciler

/-- The connection is none until one is made. -/
structure Session where
  subject : Subject
  connection : Option Client
  cloud : Cloud
  storeFault : Option Fault
  credentials : Credentials
  files : Config.Files
  now : String

/-- What a step of a session asks for. Files that are given replace those that were there. -/
inductive Command where
  | connect
  | connectWith (global project : Option (Option FileEntry)) (environment : Environment)
  | operate (operation : Operation)
  | close
  | enter
  | leave
  | setSubject (subject : Subject)
  | put (id : Int) (droplet : Value)
  | drop (id : Int)
  | setOutage (fault : Option Fault)
  | setStoreFault (fault : Option Fault)
  | setCredentials (answer : Except Fault Value)

/-- A step has replies prepared for it, and may have a subject of its own. -/
structure Step where
  command : Command
  clock : Option String
  replies : List Reply
  subject : Option Subject
  applies : Bool

inductive Answer where
  | nothing
  | connected
  | operated (outcome : Outcome)
  | closed
  | entered
  | left
  deriving DecidableEq, Repr

/-- What a step led to. -/
structure Progress where
  result : Except Fault Answer
  session : Session
  events : List Event

namespace Session

def world (layer : Layer) (credentials : Credentials) (environment : Environment)
    (storeFault : Option Fault) : World Cloud where
  send := Cloud.answer layer
  persist := fun _ cloud =>
    match storeFault with
    | some fault => (.error fault, cloud)
    | none => (.ok (), cloud)
  resolve := fun reference cloud => (credentials.resolve environment reference, cloud)

/-- The token of a connection that was never asked for. -/
def directToken : Value := .text "direct"

/-- Calls of the inner layer go through the client of the connection. -/
def carry {α : Type} (layer : Layer) (action : Action α) (client : Client) :
    Action (α × Client) :=
  match layer with
  | .direct => action.andThen fun result => .done (result, client)
  | .wire => action.through client

/-- An action over the connection in use, or over a new one when there is none. -/
def overConnection {α : Type} (layer : Layer) (action : Action α) (connection : Option Client) :
    Action (α × Client) :=
  match connection with
  | some client => carry layer action client
  | none => .adopt directToken (carry layer action .opened)

/-- Runs an action over the connection of a session. -/
def perform {α : Type} (layer : Layer) (action : Action α) (s : Session) : Trace Session α :=
  let trace := (overConnection layer action s.connection).run
    (world layer s.credentials [] s.storeFault) s.cloud
  { result := trace.result.1
    state := { s with cloud := trace.state, connection := some trace.result.2 }
    events := trace.events }

/-- Connects with given credentials; a failure leaves the connection as it was. -/
def connectBy (layer : Layer) (credentials : Credentials) (environment : Environment)
    (subject : Subject) (s : Session) : Progress :=
  let trace := (Reconcile.connect subject).run
    (world layer credentials environment s.storeFault) s.cloud
  match trace.result with
  | .error fault => ⟨.error fault, { s with cloud := trace.state }, trace.events⟩
  | .ok _ =>
    ⟨.ok .connected, { s with cloud := trace.state, connection := some .opened }, trace.events⟩

/-- Runs an operation and applies the change that it leaves behind, unless the subject is not the
record of the session. -/
def operate (layer : Layer) (operation : Operation) (own : Option Subject) (applies : Bool)
    (s : Session) : Progress :=
  let trace := s.perform layer (operation.action s.now (own.getD s.subject))
  let session := trace.state
  let subject :=
    match session.subject, own, applies with
    | .record record, none, true => .record (record.settle trace.result)
    | subject, _, _ => subject
  ⟨trace.result.map .operated, { session with subject := subject }, trace.events⟩

/-- Ends the connection. -/
def close (layer : Layer) (answer : Answer) (s : Session) : Progress :=
  let trace := s.perform layer (.send .close fun reply => .done reply)
  ⟨trace.result.map fun _ => answer, trace.state, trace.events⟩

/-- A change of the session that always succeeds and leaves no trace. -/
def changed (s : Session) : Progress := ⟨.ok .nothing, s, []⟩

def connectWith (layer : Layer) (global project : Option (Option FileEntry))
    (environment : Environment) (subject : Subject) (s : Session) : Progress :=
  let files := s.files.replace global project
  let s := { s with files := files }
  match Credentials.ofFiles files with
  | .error fault => ⟨.error fault, s, []⟩
  | .ok credentials => s.connectBy layer credentials environment subject

def follow (layer : Layer) (step : Step) (s : Session) : Progress :=
  match step.command with
  | .connect => s.connectBy layer s.credentials [] (step.subject.getD s.subject)
  | .connectWith global project environment =>
    s.connectWith layer global project environment (step.subject.getD s.subject)
  | .operate operation => s.operate layer operation step.subject step.applies
  | .close => s.close layer .closed
  | .enter =>
    let trace := s.perform layer (.done ())
    ⟨.ok .entered, trace.state, trace.events⟩
  | .leave => s.close layer .left
  | .setSubject subject => changed { s with subject := subject }
  | .put id droplet => changed { s with cloud := s.cloud.put id droplet }
  | .drop id => changed { s with cloud := s.cloud.drop id }
  | .setOutage fault => changed { s with cloud := { s.cloud with outage := fault } }
  | .setStoreFault fault => changed { s with storeFault := fault }
  | .setCredentials answer => changed { s with credentials := .fixed answer }

/-- Takes a step: the clock moves first, and replies that are left over are dropped. -/
def step (layer : Layer) (step : Step) (s : Session) : Progress :=
  let started :=
    { s with
      now := step.clock.getD s.now
      cloud := { s.cloud with replies := step.replies } }
  let progress := started.follow layer step
  { progress with
    session :=
      { progress.session with cloud := { progress.session.cloud with replies := [] } } }

end Session

end DropletReconciler
