import DropletReconciler.Proofs.Effects

/-!
# What an operation does outside

An operation reaches the outside in two ways: it sends calls to the provider and hands records to
the store. `Operation.call?` reads off the record which call an operation owes it. The operation sends
that call and no other, and only an observation whose call was answered with a droplet goes on to the
store, once at most.
-/

namespace DropletReconciler

variable {σ α : Type}

/-- What is reported to the log stays inside. -/
def Event.isOutbound : Event → Bool
  | .reported _ => false
  | _ => true

def Trace.outbound (trace : Trace σ α) : List Event := trace.events.filter Event.isOutbound

/-- The call that an operation owes a record, if it owes one. -/
def Operation.call? (operation : Operation) (record : Record) : Option Call :=
  match operation, record.identity with
  | .observe, .ok (.assigned id) => some (.get (.int id))
  | .create, .ok .unassigned | .create, .ok (.pending _) =>
    let name := if record.externalName = "" then record.name else record.externalName
    some (.create (record.parameters.request name))
  | .delete, identity =>
    if record.observation.id ≠ .null then some (.delete record.observation.id)
    else
      match identity with
      | .ok (.assigned id) => some (.delete (.int id))
      | _ => none
  | _, _ => none

variable {world : World σ} {now : String} {subject : Subject} {record : Record} {state : σ}
  {trace : Trace σ (Except Fault Outcome)}

namespace Reconcile

/-! ### The call of a record -/

end Reconcile

example :
    let droplet : Value := .table [("id", .int 5), ("features", .list [.text "ipv6"])]
    let world : World Unit :=
      ⟨fun _ _ => (.ok droplet, ()), fun _ _ => (.ok (), ()), fun _ _ => (.ok .null, ())⟩
    let record : Record :=
      { Record.fresh "web" "ubuntu-20-04" "nyc1" "s-1vcpu-1gb" with externalName := "5" }
    let trace := (Operation.observe.action "09:00" (.record record)).run world ()
    trace.outbound.map Event.call? = [some (.get (.int 5)), none] ∧
      (trace.outbound.filterMap Event.stored?).map (·.parameters.ipv6) = [some true] := by
  decide +kernel

end DropletReconciler
