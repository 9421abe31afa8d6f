import DropletReconciler.Fault
import DropletReconciler.Report

/-!
Actions: what an operation does to the world outside, step by step, up to its result. A world says
how each step is answered, and a run keeps a list of the steps with their answers.
-/

namespace DropletReconciler

/-- A call to the provider. -/
inductive Call where
  | create (request : Table)
  | get (id : Value)
  | delete (id : Value)
  | close
  deriving DecidableEq, Repr

inductive Action (α : Type) where
  | done (result : α)
  | send (call : Call) (next : Except Fault Value → Action α)
  | persist (record : Record) (next : Except Fault Unit → Action α)
  | resolve (reference : String) (next : Except Fault Value → Action α)
  | adopt (token : Value) (next : Action α)
  | report (line : Report) (next : Action α)

namespace Action

variable {α β σ : Type}

def andThen : Action α → (α → Action β) → Action β
  | .done result, f => f result
  | .send call next, f => .send call fun reply => (next reply).andThen f
  | .persist record next, f => .persist record fun answer => (next answer).andThen f
  | .resolve reference next, f => .resolve reference fun answer => (next answer).andThen f
  | .adopt token next, f => .adopt token (next.andThen f)
  | .report line next, f => .report line (next.andThen f)

/-- Reports on the way to a result. The loggers of the library are on, so the text is made even when
no handler takes it, and a report that cannot be written fails in place of what was to follow. -/
def reporting (line : Report) (next : Action (Except Fault α)) : Action (Except Fault α) :=
  match line.text with
  | .ok _ => .report line next
  | .error fault => .done (.error (.unlogged fault))

end Action

/-- A step of a run, with the answer it got. -/
inductive Event where
  | sent (call : Call) (reply : Except Fault Value)
  | persisted (record : Record) (answer : Except Fault Unit)
  | asked (reference : String) (answer : Except Fault Value)
  | adopted (token : Value)
  | reported (line : Report)

namespace Event

def call? : Event → Option Call
  | .sent call _ => some call
  | _ => none

/-- The record that the store took; one that it refuses is not stored. -/
def stored? : Event → Option Record
  | .persisted record (.ok ()) => some record
  | _ => none

def token? : Event → Option Value
  | .adopted token => some token
  | _ => none

def report? : Event → Option Report
  | .reported line => some line
  | _ => none

end Event

/-- How a world in a state answers, and the state it goes to. -/
structure World (σ : Type) where
  send : Call → σ → Except Fault Value × σ
  persist : Record → σ → Except Fault Unit × σ
  resolve : String → σ → Except Fault Value × σ

/-- The end of a run: its result, the state of the world, and what happened on the way. -/
structure Trace (σ α : Type) where
  result : α
  state : σ
  events : List Event

def Trace.after {σ α : Type} (event : Event) (t : Trace σ α) : Trace σ α :=
  { t with events := event :: t.events }

def Action.run {σ α : Type} (world : World σ) : Action α → σ → Trace σ α
  | .done result, state => ⟨result, state, []⟩
  | .send call next, state =>
    let (reply, state) := world.send call state
    ((next reply).run world state).after (.sent call reply)
  | .persist record next, state =>
    let (answer, state) := world.persist record state
    ((next answer).run world state).after (.persisted record answer)
  | .resolve reference next, state =>
    let (answer, state) := world.resolve reference state
    ((next answer).run world state).after (.asked reference answer)
  | .adopt token next, state => (next.run world state).after (.adopted token)
  | .report line next, state => (next.run world state).after (.reported line)

end DropletReconciler
