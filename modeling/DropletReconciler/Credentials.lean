import DropletReconciler.Reconcile

/-!
Credentials: where the token for a record comes from, and the connection made with it.
-/

namespace DropletReconciler

inductive Credentials where
  /-- The same answer for every reference. -/
  | fixed (answer : Except Fault Value)
  /-- A variable of the environment, whatever the reference. -/
  | fromEnvironment (name : Value)
  /-- The accounts of a configuration, by their names. -/
  | configured (config : Table)

namespace Credentials

/-- A fault of the configuration, as a fault of the credentials where it is one of its own. -/
def unresolved (reference : String) (fault : Config.Fault) : Fault :=
  if fault.errorClass.isA .configuration then .unresolved reference fault else .config fault

def resolve (environment : Environment) (reference : String) : Credentials → Except Fault Value
  | .fixed answer => answer
  | .fromEnvironment name =>
    (Account.resolveToken ⟨.null, name⟩ environment).mapError .token
  | .configured config =>
    match Config.account (.table config) reference with
    | .error fault => .error (unresolved reference fault)
    | .ok account => (account.resolveToken environment).mapError .token

/-- Credentials from two files, which are read once. -/
def ofFiles (files : Config.Files) : Except Fault Credentials :=
  ((Config.load files).mapError .config).map .configured

end Credentials

namespace Reconcile

/-- A failure to get a token, as a fault of the credentials. -/
def unconnected (reference : String) (fault : Fault) : Fault :=
  if fault.errorClass.isA .credential then fault
  else if fault.isFailure then .noCredentials reference fault
  else fault

/-- Gets the token for the account that a record names and opens a connection with it. -/
def connect (subject : Subject) : Action (Except Fault Value) :=
  match recordOf subject with
  | .error fault => .done (.error fault)
  | .ok record =>
    .resolve record.providerConfig fun answer =>
      match answer with
      | .error fault => .done (.error (unconnected record.providerConfig fault))
      | .ok token => .adopt token (.done (.ok token))

end Reconcile

end DropletReconciler
