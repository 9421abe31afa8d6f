import DropletReconciler.Proofs.Runs

/-!
# Worlds that an operation cannot tell apart

An operation on a droplet looks at a reply only so far: of a droplet that is not there it wants to
know no more than that. So two worlds lead an operation to the same result when each of their replies
means the same to it, and when they go on to states that correspond again. A request for a new droplet
is left out: what follows from its reply is only a report.
-/

namespace DropletReconciler

variable {σ τ α : Type}

/-- Replies to a call that mean the same: equal ones, or two ways to say that there is no such
droplet. -/
inductive Call.Alike : Call → Except Fault Value → Except Fault Value → Prop
  | same {call : Call} {reply : Except Fault Value} : Alike call reply reply
  | notFound {id : Value} {fault fault' : Fault} (h : fault.isMissing = true)
      (h' : fault'.isMissing = true) : Alike (.get id) (.error fault) (.error fault')
  | alreadyGone {id : Value} {fault fault' : Fault} (h : fault.isMissing = true)
      (h' : fault'.isMissing = true) : Alike (.delete id) (.error fault) (.error fault')

/-- A call about an id that can be looked up. -/
def Call.Plain : Call → Prop
  | .get id => id.canBeKey = true
  | .delete id => id.canBeKey = true
  | _ => False

/-- An action that sends plain calls only, and goes on in one way after replies that are alike. -/
inductive Action.Indifferent : Action α → Prop
  | done {result : α} : Indifferent (.done result)
  | send {call : Call} {next : Except Fault Value → Action α} (hplain : call.Plain)
      (halike : ∀ reply reply', call.Alike reply reply' → next reply = next reply')
      (hnext : ∀ reply, Indifferent (next reply)) : Indifferent (.send call next)
  | persist {record : Record} {next : Except Fault Unit → Action α}
      (hnext : ∀ answer, Indifferent (next answer)) : Indifferent (.persist record next)
  | resolve {reference : String} {next : Except Fault Value → Action α}
      (hnext : ∀ answer, Indifferent (next answer)) : Indifferent (.resolve reference next)
  | adopt {token : Value} {next : Action α} (hnext : Indifferent next) :
      Indifferent (.adopt token next)
  | report {line : Report} {next : Action α} (hnext : Indifferent next) :
      Indifferent (.report line next)

theorem Action.Indifferent.reporting {line : Report} {next : Action (Except Fault α)}
    (h : next.Indifferent) : (Action.reporting line next).Indifferent := by
  rw [Action.reporting_eq]
  split
  · exact .report h
  · exact .done

/-! ### The operations -/

namespace Reconcile

end Reconcile

end DropletReconciler
