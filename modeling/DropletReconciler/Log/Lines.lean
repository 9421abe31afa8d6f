import DropletReconciler.Log.Entry

/-!
The lines of an entry. They end with the error and the stack that the entry carries.
-/

namespace DropletReconciler.Log.Entry

/-- What stands for an error when none is being handled. -/
def noErrorText : String := "NoneType: None"

/-- An error is given by three values. The last two must be null, because no value is an error. -/
def describe (error : Value) : Except Value.Misuse String := do
  let trace ← error.item 2
  if trace ≠ .null then throw (.noMember trace.kind "tb_frame")
  let cause ← error.item 1
  if cause ≠ .null then throw (.noMember cause.kind "__suppress_context__")
  pure noErrorText

/-- The text of the error that an entry carries, unless the entry has one already. -/
def errorText (entry : Entry) : Except EntryFault Value := do
  let error ← entry.part .error
  let text ← entry.part .errorText
  if error.isPresent && !text.isPresent then
    pure (.text (← (describe error).mapError .misuse))
  else pure text

/-- A text with another one below it, if there is another. -/
def above (text : String) (other : Value) : Except EntryFault String :=
  if other.isPresent then
    match other with
    | .text s => .ok ((if text.endsWith "\n" then text else text ++ "\n") ++ s)
    | v => .error (.notJoined v.kind)
  else .ok text

/-- A text with the error and the stack of an entry below it. -/
def withTail (entry : Entry) (text : String) : Except EntryFault String := do
  let text ← above text (← entry.errorText)
  above text (← entry.part .stack)

def levelWidth : Nat := 8

/-- A text, filled up to the width of a level. -/
def padded (level : String) : String :=
  level ++ String.ofList (List.replicate (levelWidth - level.length) ' ')

/-- A value that must be a whole number, as a numeral. -/
def wholeNumber (v : Value) : Except EntryFault String := do
  let n ← (Template.Percent.Directive.wholeOf 'd' v).mapError fun fault =>
    .percent (.directive fault)
  (Numeral.write n).mapError .tooLong

/-- A time for a file, which may also be absent. -/
def checkTime (v : Value) : Except EntryFault Unit := do
  if v ≠ .null then
    let _ ← (Instant.told v).mapError .instant

/-- An entry as it stands in a file. Its time and its place are left out, but must be sound. -/
def lines (entry : Entry) : Except EntryFault String := do
  let message ← entry.message
  checkTime (← entry.part .created)
  let _ ← wholeNumber (← entry.part .milliseconds)
  let level ← entry.partText .level
  let logger ← entry.partText .logger
  let _ ← entry.partText .function
  let _ ← wholeNumber (← entry.part .line)
  let text ← entry.withTail (padded level ++ " | " ++ logger ++ " - " ++ message)
  pure (text ++ "\n")

end DropletReconciler.Log.Entry
