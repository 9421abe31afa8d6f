import DropletReconciler.Fault
import DropletReconciler.Proofs.ExternalName

/-!
# Ids offered one after another

An identity without an id takes the first positive one that it is offered, and from then on it takes
no other. What is refused leaves it as it was. A refusal is worded with the ids that it is about, so
it is a fault of the identity as long as these can be written.
-/

namespace DropletReconciler.Identity

open Numeral (maxDigits)

variable {current next : Identity} {id : Int} {fault : AssignFault}

/-! ### One offer -/

/-- The user's name, or not even that. -/
def Unbound (identity : Identity) : Prop :=
  identity = .unassigned ∨ ∃ name, identity = .pending name

/-- An id that was offered, the answer to it, and the identity before and after. -/
structure Offer where
  id : Int
  before : Identity
  answer : Except AssignFault Identity
  after : Identity

def Offer.of (current : Identity) (id : Int) : Offer :=
  ⟨id, current, current.assign id, current.offer id⟩

end DropletReconciler.Identity
