import DropletReconciler.Log.Setup

/-!
Steps in the use of a log, and what each of them leads to.
-/

namespace DropletReconciler.Log

/-- A message given to the logger: by whom, at which level, and with what values. -/
structure Message where
  logger : String
  severity : Severity
  traced : Bool
  template : String
  positional : List Value
  named : Table

inductive Command where
  | bind (extras : Table)
  | unbind
  | log (message : Message)
  | addConsole (level : Value)
  | addFile (path : String) (level maxBytes backups : Value)
  | remove (id : Value)
  | enable (name : Value)
  | disable (name : Value)
  | setup (settings : Table)
  | teardown (ids : Value)

inductive Answer where
  | nothing
  | issued (id : Nat)
  | issuedAll (ids : List Nat)
  deriving DecidableEq, Repr

/-- What a step led to: its answer, the log after it, and what was seen of the entry it made. -/
structure Progress where
  result : Except Fault Answer
  journal : Journal
  seen : List Seen

def Done.progress {α : Type} (answer : α → Answer) (done : Done α) : Progress :=
  ⟨done.result.map answer, done.journal, []⟩

namespace Journal

/-- A step that fails changes nothing. -/
def changed (j : Journal) (result : Except Fault Journal) : Progress :=
  match result with
  | .error fault => ⟨.error fault, j, []⟩
  | .ok next => ⟨.ok .nothing, next, []⟩

/-- The logger of a name, for a step that concerns one. -/
def atLogger (name : Value) (change : String → Journal → Journal) (j : Journal) :
    Except Fault Journal :=
  match loggerOf name with
  | some name => .ok (change name j)
  | none => .error .notName

def logMessage (m : Message) (j : Journal) : Progress :=
  let logged := j.log (loggerNamed m.logger) m.severity m.traced m.template m.positional m.named
  ⟨logged.result.map fun () => .nothing, logged.journal, logged.seen⟩

def step (command : Command) (j : Journal) : Progress :=
  match command with
  | .bind extras => j.changed ((j.bind extras).mapError .settings)
  | .unbind => j.changed (.ok j.unbind)
  | .log message => j.logMessage message
  | .addConsole level => (j.attempt (j.addConsole level)).progress .issued
  | .addFile path level maxBytes backups =>
    (j.attempt (j.addFile (pathOf path) level maxBytes backups)).progress .issued
  | .remove id => j.changed (j.remove id)
  | .enable name => j.changed (j.atLogger name enable)
  | .disable name => j.changed (j.atLogger name disable)
  | .setup settings =>
    match Config.ofSettings settings with
    | .error fault => ⟨.error (.settings fault), j, []⟩
    | .ok config => (j.setup config).progress .issuedAll
  | .teardown ids => (j.teardown ids).progress fun () => .nothing

end Journal

end DropletReconciler.Log
