import DropletReconciler.Log.Config
import DropletReconciler.Log.Journal

/-!
Setting the log up from its settings and tearing it down again. What was done before a fault stays
done.
-/

namespace DropletReconciler.Log

/-- What came of a step, and the log after it. -/
structure Done (α : Type) where
  result : Except Fault α
  journal : Journal

namespace Journal

/-- A step that changes nothing when it fails. -/
def attempt (j : Journal) (changed : Except Fault Journal) : Done Nat :=
  match changed with
  | .error fault => ⟨.error fault, j⟩
  | .ok next => ⟨.ok next.registry.issued, next⟩

def fileLevel : Value := .text "DEBUG"

/-- The size that a rotation setting stands for. -/
def limitOf : Value → Except Fault Value
  | .text rotation => ((rotationBytes rotation).mapError .rotation).map fun n => .int n
  | v => .error (.misuse (.noMember v.kind "strip"))

/-- Adds the file of the settings; its directory is made first. -/
def setupFile (config : Config) (j : Journal) : Done Nat :=
  match config.file with
  | .text file =>
    let path := pathOf file
    let (made, disk) := j.disk.makeParent path
    let j := { j with disk := disk }
    match made, limitOf config.rotation with
    | .error fault, _ => ⟨.error (.disk fault), j⟩
    | .ok (), .error fault => ⟨.error fault, j⟩
    | .ok (), .ok maxBytes => j.attempt (j.addFile path fileLevel maxBytes config.retention)
  | v => ⟨.error (.notPath v.kind), j⟩

/-- Does a step that gives out an id when it is wanted. -/
def whenWanted (wanted : Value) (step : Journal → Done Nat) (j : Journal) : Done (List Nat) :=
  if wanted.isPresent then
    let done := step j
    ⟨done.result.map fun id => [id], done.journal⟩
  else ⟨.ok [], j⟩

/-- Replaces all handlers by those of the settings and switches the library on. -/
def setup (config : Config) (j : Journal) : Done (List Nat) :=
  let cleared := { j with registry := j.registry.removeAll }.enable libraryName
  let console :=
    whenWanted config.console (fun j => j.attempt (j.addConsole config.level)) cleared
  match console.result with
  | .error _ => console
  | .ok ids =>
    let file := whenWanted config.file (setupFile config) console.journal
    ⟨file.result.map fun more => ids ++ more, file.journal⟩

/-- Removes handlers one after another. -/
def removeEach : List Value → Journal → Done Unit
  | [], j => ⟨.ok (), j⟩
  | id :: rest, j =>
    match j.remove id with
    | .error fault => ⟨.error fault, j⟩
    | .ok j => removeEach rest j

/-- Removes the handlers of the given ids and switches the library off. -/
def teardown (ids : Value) (j : Journal) : Done Unit :=
  match ids.items with
  | .error fault => ⟨.error (.misuse fault), j⟩
  | .ok ids =>
    let done := j.removeEach ids
    match done.result with
    | .error _ => done
    | .ok () => ⟨.ok (), done.journal.disable libraryName⟩

end Journal

end DropletReconciler.Log
