import DropletReconciler.Numeral

/-!
The external identity of a record. An external name is empty before the droplet is created, a name
chosen by the user until the provider has given an id, and the id from then on.
-/

namespace DropletReconciler

inductive Identity where
  | unassigned
  | pending (name : String)
  | assigned (id : Int)
  deriving DecidableEq, Repr

/-- An id that the identity cannot take, with the ids as they are written in the message. The id of a
bound droplet was read from a name, so it is never too long to be written. -/
inductive IdentityFault where
  | notPositive (id : String)
  | reassigned (id refused : String)
  | alreadyBound (name : String) (id : Int)
  deriving DecidableEq, Repr

def IdentityFault.message : IdentityFault → String
  | .notPositive id => s!"provider IDs must be positive, got {id}"
  | .reassigned id refused =>
    s!"identity already assigned to {id}, refusing to reassign to {refused}"
  | .alreadyBound name id => s!"droplet {name} is already bound to provider ID {id}"

namespace Identity

/-- ASCII digits that denote a positive number are an id. -/
def parse (externalName : String) : Except Numeral.TooLong Identity :=
  let cs := externalName.toList
  if cs.isEmpty then .ok .unassigned
  else if cs.all Char.isDigit then do
    let id ← Numeral.readAscii cs
    pure (if 0 < id then .assigned id else .pending externalName)
  else .ok (.pending externalName)

def render : Identity → String
  | .unassigned => ""
  | .pending name => name
  | .assigned id => toString id

/-- What comes of an id that is not taken: it is refused in a message, unless the message would hold
a numeral that is too long to be written. -/
inductive AssignFault where
  | refused (fault : IdentityFault)
  | tooLong (fault : Numeral.TooLong)
  deriving DecidableEq, Repr

def AssignFault.message : AssignFault → String
  | .refused fault => fault.message
  | .tooLong fault => fault.message

/-- The refusal of an id that is not positive. -/
def refuseSign (id : Int) : AssignFault :=
  match Numeral.write id with
  | .ok written => .refused (.notPositive written)
  | .error fault => .tooLong fault

/-- The refusal of an id in favour of one that is there already. -/
def refuseChange (existing id : Int) : AssignFault :=
  match Numeral.write existing, Numeral.write id with
  | .ok existing, .ok id => .refused (.reassigned existing id)
  | .error fault, _ | _, .error fault => .tooLong fault

/-- An assigned identity takes no other id than its own. -/
def assign (current : Identity) (id : Int) : Except AssignFault Identity :=
  if id ≤ 0 then .error (refuseSign id)
  else
    match current with
    | .assigned existing =>
      if existing = id then .ok current else .error (refuseChange existing id)
    | _ => .ok (.assigned id)

/-- The identity after an id was offered to it; a refused id leaves it as it was. -/
def offer (current : Identity) (id : Int) : Identity :=
  match current.assign id with
  | .ok next => next
  | .error _ => current

end Identity

end DropletReconciler
