import DropletReconciler.Value

/-!
Named settings, and those that their owner does not take.
-/

namespace DropletReconciler

inductive SettingsFault where
  | unknown (owner name : String)
  | twice (owner name : String)
  | notNamed
  deriving DecidableEq, Repr

def SettingsFault.message : SettingsFault → String
  | .unknown owner name => owner ++ " got an unexpected keyword argument '" ++ name ++ "'"
  | .twice owner name => owner ++ " got multiple values for argument '" ++ name ++ "'"
  | .notNamed => "keywords must be strings"

/-- The name that stands for the owner itself and cannot be set. -/
def ownerName : String := "self"

/-- The fault of a setting that its owner does not have. -/
def SettingsFault.refuse (owner name : String) : SettingsFault :=
  if name = ownerName then .twice owner name else .unknown owner name

end DropletReconciler
