import DropletReconciler.Text.Quoted

/-!
The classes of errors. Whoever handles a class handles every class below it.
-/

namespace DropletReconciler

/-- `foreign` is a class of another library that is a plain failure. -/
inductive ErrorClass where
  | anything
  | failure
  | cancelled
  | reconciler
  | wrongKind
  | configuration
  | credential
  | identityTransition
  | external
  | observe
  | create
  | update
  | delete
  | provider
  | dropletNotFound
  | transport
  | response
  | resourceNotFound
  | attribute
  | lookup
  | index
  | key
  | type
  | value
  | unicode
  | unicodeDecode
  | tomlDecode
  | runtime
  | recursion
  | system
  | timeout
  | arithmetic
  | overflow
  | memory
  | foreign (name : String)
  deriving DecidableEq, Repr

namespace ErrorClass

def name : ErrorClass → String
  | .anything => "BaseException"
  | .failure => "Exception"
  | .cancelled => "CancelledError"
  | .reconciler => "DropletSyncError"
  | .wrongKind => "WrongKindError"
  | .configuration => "ConfigurationError"
  | .credential => "CredentialError"
  | .identityTransition => "IdentityTransitionError"
  | .external => "ExternalError"
  | .observe => "ObserveError"
  | .create => "CreateError"
  | .update => "UpdateError"
  | .delete => "DeleteError"
  | .provider => "DigitalOceanError"
  | .dropletNotFound => "DropletNotFoundError"
  | .transport => "AzureError"
  | .response => "HttpResponseError"
  | .resourceNotFound => "ResourceNotFoundError"
  | .attribute => "AttributeError"
  | .lookup => "LookupError"
  | .index => "IndexError"
  | .key => "KeyError"
  | .type => "TypeError"
  | .value => "ValueError"
  | .unicode => "UnicodeError"
  | .unicodeDecode => "UnicodeDecodeError"
  | .tomlDecode => "TOMLDecodeError"
  | .runtime => "RuntimeError"
  | .recursion => "RecursionError"
  | .system => "OSError"
  | .timeout => "TimeoutError"
  | .arithmetic => "ArithmeticError"
  | .overflow => "OverflowError"
  | .memory => "MemoryError"
  | .foreign name => name

/-- The classes that have a fixed place. -/
def known : List ErrorClass :=
  [.anything, .failure, .cancelled, .reconciler, .wrongKind, .configuration, .credential,
    .identityTransition, .external, .observe, .create, .update, .delete, .provider,
    .dropletNotFound, .transport, .response, .resourceNotFound, .attribute, .lookup, .index, .key,
    .type, .value, .unicode, .unicodeDecode, .tomlDecode, .runtime, .recursion, .system, .timeout,
    .arithmetic, .overflow, .memory]

def ofName (name : String) : ErrorClass :=
  (known.find? fun cls => cls.name = name).getD (.foreign name)

/-- The classes above a class, the nearest first. -/
def bases : ErrorClass → List ErrorClass
  | .anything => []
  | .failure | .cancelled => [.anything]
  | .wrongKind | .configuration | .credential | .identityTransition | .external =>
    [.reconciler, .failure, .anything]
  | .observe | .create | .update | .delete => [.external, .reconciler, .failure, .anything]
  | .dropletNotFound => [.provider, .failure, .anything]
  | .response => [.transport, .failure, .anything]
  | .resourceNotFound => [.response, .transport, .failure, .anything]
  | .index | .key => [.lookup, .failure, .anything]
  | .unicode | .tomlDecode => [.value, .failure, .anything]
  | .unicodeDecode => [.unicode, .value, .failure, .anything]
  | .recursion => [.runtime, .failure, .anything]
  | .timeout => [.system, .failure, .anything]
  | .overflow => [.arithmetic, .failure, .anything]
  | _ => [.failure, .anything]

/-- A class is below another, or the same. -/
def isA (cls other : ErrorClass) : Bool := cls == other || cls.bases.contains other

/-- The text of an error that is raised with a message, or without one. A missing key is quoted, and
an error of a response always says something. -/
def wording (cls : ErrorClass) (message : Option String) : String :=
  let given := message.getD ""
  if cls.isA .key then (message.map Text.quoted).getD ""
  else if cls.isA .response ∧ given.isEmpty then "Operation returned an invalid status 'None'"
  else given

end ErrorClass

end DropletReconciler
