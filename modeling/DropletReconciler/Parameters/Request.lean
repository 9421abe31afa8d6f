import DropletReconciler.Parameters

/-!
The request that asks the provider for a droplet. It has no field for a parameter that is not set.
-/

namespace DropletReconciler

def optionalField (key : String) (value : Option Value) : Table :=
  match value with
  | none => []
  | some value => [(key, value)]

def textList (texts : List String) : Value := .list (texts.map .text)

def Parameters.request (name : String) (p : Parameters) : Table :=
  [("name", .text name), ("region", .text p.region), ("size", .text p.size),
    ("image", .text p.image)] ++
    optionalField "backups" (p.backups.map .bool) ++
    optionalField "ipv6" (p.ipv6.map .bool) ++
    optionalField "monitoring" (p.monitoring.map .bool) ++
    optionalField "private_networking" (p.privateNetworking.map .bool) ++
    optionalField "with_droplet_agent" (p.withDropletAgent.map .bool) ++
    optionalField "ssh_keys" (p.sshKeys.map textList) ++
    optionalField "volumes" (p.volumes.map textList) ++
    optionalField "tags" (p.tags.map textList) ++
    optionalField "vpc_uuid" p.vpcUuid

end DropletReconciler
