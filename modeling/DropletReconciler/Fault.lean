import DropletReconciler.Config
import DropletReconciler.Patch
import DropletReconciler.Template.Fill

/-!
Everything that can go wrong while a droplet is reconciled. A fault that one operation meets in
another is kept inside the fault it is reported as.
-/

namespace DropletReconciler

/-- The requests of the client that can fail. -/
inductive Verb where
  | create
  | get
  | delete
  deriving DecidableEq, Repr

def Verb.word : Verb → String
  | .create => "create"
  | .get => "get"
  | .delete => "delete"

/-- The stages of a reconciliation that report a failure as their own. -/
inductive Stage where
  | observe
  | update
  | create
  | delete
  deriving DecidableEq, Repr

def Stage.errorClass : Stage → ErrorClass
  | .observe => .observe
  | .update => .update
  | .create => .create
  | .delete => .delete

def Stage.sentence : Stage → String
  | .observe => "cannot get droplet"
  | .update => "cannot update managed Droplet resource"
  | .create => "creation of Droplet resource has failed"
  | .delete => "deletion of Droplet resource has failed"

/-- `raised` is a fault from outside, with the status code that it carries, and `unlogged` that of a
message that cannot be made for the log. -/
inductive Fault where
  | raised (cls : ErrorClass) (text : String) (status : Option Value)
  | missing (id : Value) (status : Option Value)
  | reportedMissing (id : Value) (origin : Fault)
  | rejected (verb : Verb) (origin : Fault)
  | emptyResponse
  | clientClosed
  | misuse (fault : Value.Misuse)
  | tooLong (fault : Numeral.TooLong)
  | identity (fault : IdentityFault)
  | wrongKind (expected : String) (actual : Subject) (kind : String)
  | failed (stage : Stage) (patch : Option Patch) (origin : Fault)
  | nothingCreated (patch : Patch)
  | token (fault : Account.TokenFault)
  | config (fault : Config.Fault)
  | unresolved (reference : String) (fault : Config.Fault)
  | noCredentials (reference : String) (origin : Fault)
  | unlogged (fault : Template.Fault)
  deriving DecidableEq, Repr

def Value.Misuse.errorClass : Value.Misuse → ErrorClass
  | .noMember _ _ => .attribute
  | .listRange | .textRange => .index
  | .missingKey _ => .key
  | .pairLength _ _ => .value
  | .unwritable _ => .value
  | _ => .type

def Config.Fault.errorClass : Config.Fault → ErrorClass
  | .unreadable _ .notText => .unicodeDecode
  | .unreadable _ (.tooLong _) => .value
  | .unreadable _ .tooDeep => .recursion
  | .tooDeep => .recursion
  | .tooLong _ => .value
  | .misuse fault => fault.errorClass
  | _ => .configuration

/-- The class of the error that a fault of the configuration is raised for. -/
def Config.Fault.cause? : Config.Fault → Option ErrorClass
  | .unreadable _ .malformed => some .tomlDecode
  | .settings _ _ => some .type
  | _ => none

def Account.TokenFault.errorClass : Account.TokenFault → ErrorClass
  | .notFound _ => .credential
  | .misuse fault => fault.errorClass

def Identity.AssignFault.errorClass : Identity.AssignFault → ErrorClass
  | .refused _ => .identityTransition
  | .tooLong _ => .value

def Template.LayoutFault.errorClass : Template.LayoutFault → ErrorClass
  | .charRange | .charSize | .floatRange => .overflow
  | .unsupported _ => .type
  | .tooLarge => .memory
  | _ => .value

def Template.ReachFault.errorClass : Template.ReachFault → ErrorClass
  | .misuse fault => fault.errorClass
  | .noClassMember _ _ | .noMember _ _ => .attribute
  | .groupRange => .index
  | _ => .type

def Template.Fault.errorClass : Template.Fault → ErrorClass
  | .reach fault => fault.errorClass
  | .layout fault => fault.errorClass
  | .noPositional _ => .index
  | .noNamed _ => .key
  | _ => .value

namespace Fault

def errorClass : Fault → ErrorClass
  | .raised cls _ _ => cls
  | .missing _ _ => .dropletNotFound
  | .reportedMissing _ _ => .dropletNotFound
  | .rejected _ _ => .provider
  | .emptyResponse => .provider
  | .clientClosed => .runtime
  | .misuse fault => fault.errorClass
  | .tooLong _ => .value
  | .identity _ => .identityTransition
  | .wrongKind _ _ _ => .wrongKind
  | .failed stage _ _ => stage.errorClass
  | .nothingCreated _ => .create
  | .token fault => fault.errorClass
  | .config fault => fault.errorClass
  | .unresolved _ _ => .credential
  | .noCredentials _ _ => .credential
  | .unlogged fault => fault.errorClass

def message : Fault → String
  | .raised _ text _ => text
  | .missing id _ => "droplet " ++ id.written ++ " not found"
  | .reportedMissing id _ => "droplet " ++ id.written ++ " not found"
  | .rejected verb origin => "Failed to " ++ verb.word ++ " droplet: " ++ origin.message
  | .emptyResponse => "Failed to create droplet: empty response"
  | .clientClosed => "Client is closed."
  | .misuse fault => fault.message
  | .tooLong fault => fault.message
  | .identity fault => fault.message
  | .wrongKind expected _ kind =>
    "managed resource is not a " ++ expected ++ " resource (got " ++ kind ++ ")"
  | .failed stage _ origin => stage.sentence ++ ": " ++ origin.message
  | .nothingCreated _ => Stage.create.sentence ++ ": empty response"
  | .token fault => fault.message
  | .config fault => fault.message
  | .unresolved reference fault =>
    "cannot resolve provider config '" ++ reference ++ "': " ++ fault.message
  | .noCredentials reference origin =>
    "cannot get credentials from provider config '" ++ reference ++ "': " ++ origin.message
  | .unlogged fault => fault.message

/-- The class of the error that a fault is raised for. -/
def cause? : Fault → Option ErrorClass
  | .reportedMissing _ origin => some origin.errorClass
  | .rejected _ origin => some origin.errorClass
  | .failed _ _ origin => some origin.errorClass
  | .config fault => fault.cause?
  | .unresolved _ fault => some fault.errorClass
  | .noCredentials _ origin => some origin.errorClass
  | _ => none

/-- The change to the record that is to be kept in spite of the fault. -/
def patch? : Fault → Option Patch
  | .failed _ patch _ => patch
  | .nothingCreated patch => some patch
  | _ => none

/-- The droplet that is not there. -/
def missingId? : Fault → Option Value
  | .missing id _ => some id
  | .reportedMissing id _ => some id
  | _ => none

def status? : Fault → Option Value
  | .raised _ _ status => status
  | .missing _ status => status
  | _ => none

/-- Cancellation is no failure and is never handled. -/
def isFailure (fault : Fault) : Bool := fault.errorClass.isA .failure

/-- The provider says that there is no such resource, by class or by status code. -/
def isNotFound (fault : Fault) : Bool :=
  fault.errorClass.isA .resourceNotFound || (fault.status?.map (·.equalsInt 404)).getD false

/-- The client says that there is no such droplet. -/
def isMissing (fault : Fault) : Bool := fault.errorClass.isA .dropletNotFound

/-- A fault whose message names a droplet, if the id can be written. -/
def naming (id : Value) (fault : Fault) : Fault :=
  match id.write with
  | .ok _ => fault
  | .error long => .tooLong long

/-- The refusal of a subject that is no record of the expected kind. -/
def refusing (expected : String) (actual : Subject) : Fault :=
  match actual.writeKind with
  | .ok kind => .wrongKind expected actual kind
  | .error long => .tooLong long

/-- A failure reported by a stage, with the change to keep. -/
def inStage (fault : Fault) (stage : Stage) (patch : Option Patch) : Fault :=
  if fault.isFailure then .failed stage patch fault else fault

end Fault

end DropletReconciler
