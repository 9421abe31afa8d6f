import DropletReconciler.Value.Access

/-!
The desired state of a droplet. An optional parameter that is not set is left to the provider; an
empty list is a value of its own.
-/

namespace DropletReconciler

structure Parameters where
  image : String
  region : String
  size : String
  backups : Option Bool
  ipv6 : Option Bool
  monitoring : Option Bool
  privateNetworking : Option Bool
  withDropletAgent : Option Bool
  sshKeys : Option (List String)
  tags : Option (List String)
  volumes : Option (List String)
  vpcUuid : Option Value
  deriving DecidableEq, Repr

end DropletReconciler
