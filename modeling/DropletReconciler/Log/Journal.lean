import DropletReconciler.ErrorClass
import DropletReconciler.Log.Console
import DropletReconciler.Log.Message
import DropletReconciler.Log.Name
import DropletReconciler.Log.Registry
import DropletReconciler.Log.Rotation
import DropletReconciler.Settings

/-!
The log of the library: the values bound to its logger, the handlers, the loggers that are switched
off, and the files.
-/

namespace DropletReconciler.Log

inductive Fault where
  | settings (fault : SettingsFault)
  | template (fault : Template.Fault)
  | context (fault : Numeral.TooLong)
  | entry (fault : EntryFault)
  | misuse (fault : Value.Misuse)
  | rotation (fault : Numeral.TooLong)
  | disk (fault : DiskFault)
  | notPath (kind : Value.Kind)
  | notName
  deriving DecidableEq, Repr

def Fault.message : Fault → String
  | .settings fault => fault.message
  | .template fault => fault.message
  | .context fault => fault.message
  | .entry fault => fault.message
  | .misuse fault => fault.message
  | .rotation fault => fault.message
  | .disk fault => fault.message
  | .notPath kind => "expected str, bytes or os.PathLike object, not " ++ kind.word
  | .notName => "A logger name must be a string"

structure Journal where
  extras : Table
  disabled : List String
  registry : Registry
  disk : Disk

namespace Journal

def start : Journal := ⟨[], [], Registry.empty, Disk.empty⟩

/-- Binds values to the logger; a known name keeps its place and takes the new value. -/
def bind (extras : Table) (j : Journal) : Except SettingsFault Journal :=
  if (Table.get? ownerName extras).isSome then
    .error (.refuse "BoundLogger.bind()" ownerName)
  else
    let bound := extras.foldl (fun bound (key, value) => Table.put key value bound) j.extras
    .ok { j with extras := bound }

def unbind (j : Journal) : Journal := { j with extras := [] }

def isDisabled (name : String) (j : Journal) : Bool := j.disabled.contains name

def enable (name : String) (j : Journal) : Journal :=
  { j with disabled := j.disabled.filter (· ≠ name) }

def disable (name : String) (j : Journal) : Journal :=
  if j.isDisabled name then j else { j with disabled := name :: j.disabled }

/-- Hands an entry to handlers, one after another. A console that cannot show it stops there; a file
that cannot take it goes without it. -/
def hand (entry : Entry) : List Handler → Disk → Except EntryFault Unit × Disk
  | [], disk => (.ok (), disk)
  | handler :: rest, disk =>
    match entry.reaches handler.level, handler.sink with
    | .error fault, _ => (.error fault, disk)
    | .ok false, _ => hand entry rest disk
    | .ok true, .console =>
      match entry.checkConsole with
      | .error fault => (.error fault, disk)
      | .ok () => hand entry rest disk
    | .ok true, .file path _ _ =>
      match entry.lines with
      | .error _ => hand entry rest disk
      | .ok text => hand entry rest (disk.append path text)

/-- What came of a message, the log after it, and what was seen of its entry. -/
structure Logged where
  result : Except Fault Unit
  journal : Journal
  seen : List Seen

/-- Hands an entry of a logger to the handlers attached above it; it is seen first when that logger
is one of the library. -/
def emit (name : String) (entry : Entry) (j : Journal) : Logged :=
  match entry.reaches 0 with
  | .error fault => ⟨.error (.entry fault), j, []⟩
  | .ok visible =>
    if isLibrary name then
      match if visible then entry.seen.map fun seen => [seen] else .ok [] with
      | .error fault => ⟨.error (.entry fault), j, []⟩
      | .ok seen =>
        let (result, disk) := hand entry j.registry.attached j.disk
        ⟨result.mapError .entry, { j with disk := disk }, seen⟩
    else ⟨.ok (), j, []⟩

def isEnabled (name : String) (severity : Severity) (j : Journal) : Bool :=
  !j.isDisabled name && threshold name ≤ severity.number

/-- The name of the argument that asks for the error being handled. -/
def tracedName : String := "exc_info"

/-- The entry of a message that is filled with values. -/
def entryOf (name : String) (severity : Severity) (traced : Bool) (message : String)
    (positional : List Value) (named : Table) (j : Journal) : Except Fault Entry := do
  let asked := ((Table.get? tracedName named).map Value.isPresent).getD false
  let text ← (format message positional (Table.erase tracedName named)).mapError .template
  let bound ← (context j.extras).mapError .context
  (Entry.make severity name (text ++ bound) (traced || asked) j.extras).mapError .entry

/-- Logs a message filled with values. A logger that is switched off does not even look at it. -/
def log (name : String) (severity : Severity) (traced : Bool) (message : String)
    (positional : List Value) (named : Table) (j : Journal) : Logged :=
  if j.isEnabled name severity then
    match j.entryOf name severity traced message positional named with
    | .error fault => ⟨.error fault, j, []⟩
    | .ok entry => j.emit name entry
  else ⟨.ok (), j, []⟩

/-- The level that a value names. -/
def levelOf : Value → Except Fault Int
  | .text name => .ok (levelNamed name)
  | v => .error (.misuse (.noMember v.kind "upper"))

/-- A limit on the size of a file must be comparable with zero. -/
def checkLimit (maxBytes : Value) : Except Fault Unit :=
  match maxBytes.leInt 0 with
  | .ok _ => .ok ()
  | .error _ => .error (.misuse (.unordered ">" maxBytes.kind))

def addSink (level : Int) (sink : Sink) (j : Journal) : Journal :=
  { j with registry := j.registry.add level sink }

/-- Adds a handler for the console. -/
def addConsole (level : Value) (j : Journal) : Except Fault Journal := do
  pure (j.addSink (← levelOf level) .console)

/-- Adds a handler for a file, which is opened at once. -/
def addFile (path : Path) (level maxBytes backups : Value) (j : Journal) :
    Except Fault Journal := do
  let level ← levelOf level
  checkLimit maxBytes
  let disk ← (j.disk.openFile path).mapError .disk
  pure ({ j with disk := disk }.addSink level (.file (normal path) maxBytes backups))

/-- Removes the handler of an id, or all of them when there is no id. Where no handler is registered
the id is not even looked up. -/
def remove (id : Value) (j : Journal) : Except Fault Journal :=
  if id = .null then .ok { j with registry := j.registry.removeAll }
  else if j.registry.registered.isEmpty then .ok j
  else if id.canBeKey then .ok { j with registry := j.registry.remove id }
  else .error (.misuse (.notKey id.kind))

end Journal

end DropletReconciler.Log
