import DropletReconciler.Proofs.Effects
import DropletReconciler.Proofs.Faults
import DropletReconciler.Proofs.ThroughClient

/-!
# Operations over an open client

The client stands between an operation and the provider's interface: it takes droplets out of replies
and puts errors into words of its own. `Operation.overClient` is what an operation comes to over an open
client, errors by their class and the change that they carry. `overClient_reworded` says that the words
of an error have no part in it.
-/

namespace DropletReconciler

variable {σ α : Type}

section

variable {world : World σ} {state after : σ} {call : Call} {reword : Fault → Fault}

end

/-! ### What the client makes of a reply -/

namespace Client

variable {id reply : Value} {fault : Fault} {verb : Verb}

end Client

/-! ### Verdicts -/

namespace Reconcile

variable {world : World σ} {now : String} {record : Record} {state after : σ}
  {operation : Operation} {fault : Fault} {reply : Except Fault Value}

section Observe

variable {id : Int}

end Observe

section Create

end Create

section Delete

variable {id : Value}

end Delete

/-! ### The words of an error -/

section Reworded

variable {reword : Fault → Fault} (hsame : ∀ fault, (reword fault).errorClass = fault.errorClass ∧
  (reword fault).status? = fault.status?)

include hsame

end Reworded

end Reconcile

end DropletReconciler
