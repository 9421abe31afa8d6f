import DropletReconciler.Template.Fill

/-!
The text of a log message and of the context bound to its logger.
-/

namespace DropletReconciler.Log

/-- Named values fill a message when there are any, else positional ones; with neither the message
stands as it is. -/
def format (message : String) (positional : List Value) (named : Table) :
    Except Template.Fault String :=
  if !named.isEmpty then Template.fill message ⟨[], named⟩
  else if !positional.isEmpty then Template.fill message ⟨positional, []⟩
  else .ok message

/-- The bound values in brackets, behind a space; nothing when there are none. -/
def context (extras : Table) : Except Numeral.TooLong String := do
  let parts ← extras.mapM fun (key, value) => value.write.map fun text => key ++ "=" ++ text
  pure (if parts.isEmpty then "" else " [" ++ String.intercalate " " parts ++ "]")

end DropletReconciler.Log
