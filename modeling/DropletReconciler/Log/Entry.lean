import DropletReconciler.Log.Instant
import DropletReconciler.Log.Level
import DropletReconciler.Log.Markup
import DropletReconciler.Template.Percent

/-!
Entries of the log. An entry is a table of parts; values bound to its logger under the key of a part
replace that part, and whoever needs the part has to cope with the value.
-/

namespace DropletReconciler.Log

inductive EntryFault where
  | notClass (kind : Value.Kind)
  | notTable (kind : Value.Kind)
  | notWritable
  | noPart (key : String)
  | notCallable (kind : Value.Kind)
  | notPath (kind : Value.Kind)
  | notJoined (kind : Value.Kind)
  | notThree (kind : Value.Kind)
  | fewerThanThree (count : Nat)
  | moreThanThree
  | noError
  | markup (fault : Markup.Fault)
  | percent (fault : Template.Percent.Fault)
  | misuse (fault : Value.Misuse)
  | instant (fault : InstantFault)
  | tooLong (fault : Numeral.TooLong)
  deriving DecidableEq, Repr

def EntryFault.message : EntryFault → String
  | .notClass kind => "__class__ must be set to a class, not '" ++ kind.word ++ "' object"
  | .notTable kind => "__dict__ must be set to a dictionary, not a '" ++ kind.word ++ "'"
  | .notWritable => "attribute '__weakref__' of 'LogRecord' objects is not writable"
  | .noPart key => "'LogRecord' object has no attribute '" ++ key ++ "'"
  | .notCallable kind => "'" ++ kind.word ++ "' object is not callable"
  | .notPath kind => "expected str, bytes or os.PathLike object, not " ++ kind.word
  | .notJoined kind => "can only concatenate str (not \"" ++ kind.word ++ "\") to str"
  | .notThree kind => "cannot unpack non-iterable " ++ kind.word ++ " object"
  | .fewerThanThree count =>
    "not enough values to unpack (expected 3, got " ++ toString count ++ ")"
  | .moreThanThree => "too many values to unpack (expected 3)"
  | .noError => ""
  | .markup fault => fault.message
  | .percent fault => fault.message
  | .misuse fault => fault.message
  | .instant fault => fault.message
  | .tooLong fault => fault.message

/-- The parts of an entry that are ever asked for. -/
inductive Part where
  | number
  | level
  | logger
  | text
  | source
  | message
  | error
  | errorText
  | stack
  | created
  | milliseconds
  | path
  | function
  | line
  | markup
  | highlighter
  deriving DecidableEq, Repr

def Part.key : Part → String
  | .number => "levelno"
  | .level => "levelname"
  | .logger => "name"
  | .text => "msg"
  | .source => "args"
  | .message => "getMessage"
  | .error => "exc_info"
  | .errorText => "exc_text"
  | .stack => "stack_info"
  | .created => "created"
  | .milliseconds => "msecs"
  | .path => "pathname"
  | .function => "funcName"
  | .line => "lineno"
  | .markup => "markup"
  | .highlighter => "highlighter"

/-- `ownError` says that the error is the one being handled where the entry was made. -/
structure Entry where
  parts : Table
  ownError : Bool
  deriving DecidableEq, Repr

/-- What is seen of an entry. -/
structure Seen where
  level : Value
  logger : Value
  text : String
  deriving DecidableEq, Repr

namespace Entry

/-- No error is being handled where entries are made. -/
def handled : Value := .list [.null, .null, .null]

/-- An entry to which nothing is bound. Its time and its place are not kept. -/
def plain (severity : Severity) (logger text : String) (traced : Bool) : Entry where
  parts :=
    ([(.number, .int severity.number), (.level, .text severity.name), (.logger, .text logger),
      (.text, .text text), (.source, .list []), (.error, if traced then handled else .null),
      (.errorText, .null), (.stack, .null), (.created, .int 0), (.milliseconds, .int 0),
      (.path, .text ""), (.function, .text ""), (.line, .int 0)] :
      List (Part × Value)).map fun (part, value) => (part.key, value)
  ownError := traced

/-- Binds a value to an entry. Three names concern the entry as a whole; a table under one of them
takes the place of all parts. -/
def bind (entry : Entry) (name : String) (value : Value) : Except EntryFault Entry :=
  if name = "__class__" then .error (.notClass value.kind)
  else if name = "__weakref__" then .error .notWritable
  else if name = "__dict__" then
    match value with
    | .table parts => .ok ⟨parts, false⟩
    | value => .error (.notTable value.kind)
  else
    .ok { parts := Table.put name value entry.parts
          ownError := entry.ownError && name ≠ Part.error.key }

def make (severity : Severity) (logger text : String) (traced : Bool) (extras : Table) :
    Except EntryFault Entry :=
  extras.foldlM (fun entry (name, value) => entry.bind name value)
    (plain severity logger text traced)

def part? (entry : Entry) (part : Part) : Option Value := Table.get? part.key entry.parts

/-- Whether an entry has a part that counts as present. -/
def asks (entry : Entry) (part : Part) : Bool := ((entry.part? part).getD .null).isPresent

def part (entry : Entry) (part : Part) : Except EntryFault Value :=
  (entry.part? part).elim (.error (.noPart part.key)) .ok

/-- The text of a part that is shown as it is. -/
def partText (entry : Entry) (part : Part) : Except EntryFault String := do
  (← entry.part part).write.mapError .tooLong

/-- Whether a handler of a level takes an entry, which only a number can decide. -/
def reaches (entry : Entry) (level : Int) : Except EntryFault Bool := do
  let number ← entry.part .number
  (number.geInt level).mapError .misuse

/-- The text of an entry, filled from its source when there is one. -/
def message (entry : Entry) : Except EntryFault String :=
  match entry.part? .message with
  | some v => .error (.notCallable v.kind)
  | none => do
    let text ← entry.partText .text
    let source ← entry.part .source
    if source.isPresent then (Template.Percent.fill text source).mapError .percent else pure text

def seen (entry : Entry) : Except EntryFault Seen := do
  let level ← entry.part .level
  let logger ← entry.part .logger
  pure ⟨level, logger, ← entry.message⟩

end Entry

end DropletReconciler.Log
