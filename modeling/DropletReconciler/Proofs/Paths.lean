import DropletReconciler.Action

/-!
# A run as a path through its world

Each event of a run takes the world from one state to the next. So what a world keeps at every event
it keeps through a whole run, and an event of a run is a step of the world from some state on the
way.
-/

namespace DropletReconciler

variable {σ α : Type} {world : World σ} {state after : σ} {events : List Event}

/-- The steps of a world. What is adopted or reported does not concern it. -/
def World.Step (world : World σ) (state : σ) : Event → σ → Prop
  | .sent call reply, after => world.send call state = (reply, after)
  | .persisted record answer, after => world.persist record state = (answer, after)
  | .asked reference answer, after => world.resolve reference state = (answer, after)
  | .adopted _, after => after = state
  | .reported _, after => after = state

inductive World.Path (world : World σ) : σ → List Event → σ → Prop
  | nil (state : σ) : Path world state [] state
  | cons {state between after : σ} {event : Event} {events : List Event}
      (hstep : world.Step state event between) (hrest : Path world between events after) :
      Path world state (event :: events) after

theorem Action.path_run (world : World σ) (action : Action α) (state : σ) :
    world.Path state (action.run world state).events (action.run world state).state := by
  induction action generalizing state with
  | done result => exact .nil state
  | send call next ih => exact .cons rfl (ih _ _)
  | persist record next ih => exact .cons rfl (ih _ _)
  | resolve reference next ih => exact .cons rfl (ih _ _)
  | adopt token next ih => exact .cons rfl (ih _)
  | report line next ih => exact .cons rfl (ih _)

namespace World.Path

variable {P : σ → Prop}

theorem invariant (hpath : world.Path state events after)
    (hkeep : ∀ event ∈ events, ∀ s t, world.Step s event t → P s → P t) (hstart : P state) :
    P after := by
  induction hpath with
  | nil => exact hstart
  | cons hstep hrest ih =>
    refine ih (fun event hevent => hkeep event (List.mem_cons_of_mem _ hevent)) ?_
    exact hkeep _ List.mem_cons_self _ _ hstep hstart

end World.Path

end DropletReconciler
