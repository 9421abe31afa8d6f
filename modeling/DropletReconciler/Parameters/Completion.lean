import DropletReconciler.Parameters

/-!
Parameters completed from an observed droplet. A parameter that is set stays as it is; keys and
agent are not reported by the provider and are never completed.
-/

namespace DropletReconciler.Parameters

/-- A flag is on when its name is among the features; without features it stays unset. -/
def flagFrom (features : Option (List Value)) (feature : String) (current : Option Bool) :
    Option Bool :=
  match current, features with
  | some flag, _ => some flag
  | none, some names => some (names.contains (.text feature))
  | none, none => none

/-- The names of the features, none of which may be a list or a table. -/
def featuresOf (observed : Value) : Except Value.Misuse (Option (List Value)) := do
  match ← observed.get? "features" with
  | none => pure none
  | some features => pure (some (← features.members))

/-- The items under a key as texts; a missing or empty entry leaves the parameter unset. -/
def textsFrom (observed : Value) (key : String) (current : Option (List String)) :
    Except Value.Misuse (Option (List String)) := do
  match current with
  | some texts => pure (some texts)
  | none =>
    match ← observed.get? key with
    | none => pure none
    | some values =>
      if values.isPresent then pure (some (← values.texts)) else pure none

/-- A value under a key that does not count as absent. -/
def valueFrom (observed : Value) (key : String) (current : Option Value) :
    Except Value.Misuse (Option Value) := do
  match current with
  | some value => pure (some value)
  | none => pure ((← observed.get? key).filter Value.isPresent)

def completeFrom (p : Parameters) (observed : Value) : Except Value.Misuse Parameters := do
  let features ← featuresOf observed
  let tags ← textsFrom observed "tags" p.tags
  let volumes ← textsFrom observed "volume_ids" p.volumes
  let vpcUuid ← valueFrom observed "vpc_uuid" p.vpcUuid
  pure
    { p with
      backups := flagFrom features "backups" p.backups
      ipv6 := flagFrom features "ipv6" p.ipv6
      monitoring := flagFrom features "monitoring" p.monitoring
      privateNetworking := flagFrom features "private_networking" p.privateNetworking
      tags := tags
      volumes := volumes
      vpcUuid := vpcUuid }

end DropletReconciler.Parameters
