import DropletReconciler.Action

/-!
The client of the provider. It turns a call for a droplet into a call of the provider's interface,
whose replies hold the droplet under a key, and words what goes wrong. A closed client makes no
calls.
-/

namespace DropletReconciler

inductive Client where
  | opened
  | closed
  deriving DecidableEq, Repr

namespace Client

/-- The droplet in a reply; an absent reply holds none. -/
def dropletOf (reply : Value) : Except Value.Misuse Value :=
  if reply.isPresent then (reply.get? "droplet").map fun droplet => droplet.getD .null
  else .ok .null

/-- A failure of a request, worded by the client. -/
def worded (verb : Verb) (fault : Fault) : Fault :=
  if fault.isFailure then .rejected verb fault else fault

/-- The same, for a request about one droplet. -/
def wordedFor (verb : Verb) (id : Value) (fault : Fault) : Fault :=
  if fault.isFailure ∧ fault.isNotFound then (Fault.reportedMissing id fault).naming id
  else worded verb fault

/-- The result of a request to create a droplet, which is reported by its id and name. -/
def created (reply : Except Fault Value) : Action (Except Fault Value) :=
  match reply with
  | .error fault => .done (.error (worded .create fault))
  | .ok reply =>
    match dropletOf reply with
    | .error fault => .done (.error (.misuse fault))
    | .ok droplet =>
      if droplet.isPresent then
        match droplet.field "id", droplet.get? "name" with
        | .error fault, _ => .done (.error (.misuse fault))
        | _, .error fault => .done (.error (.misuse fault))
        | .ok id, .ok name => .reporting (.answered id (name.getD .null)) (.done (.ok droplet))
      else .done (.error .emptyResponse)

def found (id : Value) (reply : Except Fault Value) : Except Fault Value :=
  match reply with
  | .error fault => .error (wordedFor .get id fault)
  | .ok reply =>
    match dropletOf reply with
    | .error fault => .error (.misuse fault)
    | .ok droplet =>
      if droplet.isPresent then .ok droplet else .error ((Fault.missing id none).naming id)

def deleted (id : Value) (reply : Except Fault Value) : Except Fault Value :=
  match reply with
  | .error fault => .error (wordedFor .delete id fault)
  | .ok _ => .ok .null

/-- What the client does for a call, and its state afterwards. -/
def perform (client : Client) (call : Call) : Action (Except Fault Value × Client) :=
  match client, call with
  | .closed, .close => .done (.ok .null, .closed)
  | .closed, _ => .done (.error .clientClosed, .closed)
  | .opened, .create request =>
    .send (.create request) fun reply =>
      (created reply).andThen fun result => .done (result, .opened)
  | .opened, .get id => .send (.get id) fun reply => .done (found id reply, .opened)
  | .opened, .delete id => .send (.delete id) fun reply => .done (deleted id reply, .opened)
  | .opened, .close =>
    .send .close fun reply =>
      match reply with
      | .ok _ => .done (.ok .null, .closed)
      | .error fault => .done (.error fault, .opened)

/-- What is asked of a client. Leaving it closes it. -/
inductive Use where
  | create (request : Value)
  | get (id : Value)
  | delete (id : Value)
  | close
  | enter
  | leave
  deriving DecidableEq, Repr

/-- Asks for a droplet. What is to be sent must spell out a table. -/
def requestDroplet (client : Client) (request : Value) : Action (Except Fault Value × Client) :=
  match client, request.toTable with
  | .closed, _ => .done (.error .clientClosed, .closed)
  | .opened, .error fault => .done (.error (worded .create (.misuse fault)), .opened)
  | .opened, .ok body => perform .opened (.create body)

def use (client : Client) : Use → Action (Except Fault Value × Client)
  | .create request => client.requestDroplet request
  | .get id => client.perform (.get id)
  | .delete id => client.perform (.delete id)
  | .close => client.perform .close
  | .enter => .done (.ok .null, client)
  | .leave => client.perform .close

end Client

/-- An action whose calls go through a client. -/
def Action.through {α : Type} : Action α → Client → Action (α × Client)
  | .done result, client => .done (result, client)
  | .send call next, client =>
    (client.perform call).andThen fun (reply, client) => (next reply).through client
  | .persist record next, client => .persist record fun answer => (next answer).through client
  | .resolve reference next, client =>
    .resolve reference fun answer => (next answer).through client
  | .adopt token next, client => .adopt token (next.through client)
  | .report line next, client => .report line (next.through client)

end DropletReconciler
