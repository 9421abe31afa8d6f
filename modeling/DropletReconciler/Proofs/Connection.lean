import DropletReconciler.Proofs.Effects
import DropletReconciler.Proofs.Misconfiguration
import DropletReconciler.Session

/-!
# Every way to connect

A connection is made with the token for the account that a record names. There is no other way than
those of `ConnectRun`: whatever keeps the token from being had ends the run before a client is made,
and is a fault of the credentials unless it is no failure at all.
-/

namespace DropletReconciler

variable {σ : Type}

namespace Reconcile

end Reconcile

namespace Session

variable {layer : Layer} {credentials : Credentials} {environment : Environment} {s : Session}
  {subject : Subject} {trace : Trace Cloud (Except Fault Value)}

section

variable (htrace : (Reconcile.connect subject).run
  (world layer credentials environment s.storeFault) s.cloud = trace)

include htrace

end

end Session

end DropletReconciler
