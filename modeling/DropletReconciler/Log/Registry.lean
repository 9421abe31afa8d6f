import DropletReconciler.Log.Disk
import DropletReconciler.Value

/-!
Handlers of log entries. Each handler is attached to the logger of the library and registered under
an id that is never given out again.
-/

namespace DropletReconciler.Log

inductive Sink where
  | console
  | file (path : Path) (maxBytes backups : Value)
  deriving DecidableEq, Repr

structure Handler where
  id : Nat
  level : Int
  sink : Sink
  deriving DecidableEq, Repr

/-- The ids given out so far are those up to `issued`. -/
structure Registry where
  issued : Nat
  registered : List Handler
  attached : List Handler
  deriving DecidableEq, Repr

namespace Registry

def empty : Registry := ⟨0, [], []⟩

/-- Attaches a new handler and registers it under the next id. -/
def add (level : Int) (sink : Sink) (r : Registry) : Registry :=
  let handler : Handler := ⟨r.issued + 1, level, sink⟩
  { issued := handler.id
    registered := r.registered ++ [handler]
    attached := r.attached ++ [handler] }

def find? (id : Value) (r : Registry) : Option Handler :=
  r.registered.find? fun handler => id.equalsInt handler.id

def detach (handlers : List Handler) (attached : List Handler) : List Handler :=
  attached.filter fun handler => !handlers.contains handler

/-- Detaches the handler registered under an id; an unknown id changes nothing. -/
def remove (id : Value) (r : Registry) : Registry :=
  match r.find? id with
  | none => r
  | some handler =>
    { r with
      registered := r.registered.filter fun other => other.id ≠ handler.id
      attached := detach [handler] r.attached }

/-- Detaches all handlers that are registered. -/
def removeAll (r : Registry) : Registry :=
  { r with registered := [], attached := detach r.registered r.attached }

end Registry

end DropletReconciler.Log
